import PdfElements.File.Store
import PdfElements.Interpretation.Stream
import PdfElements.Page.Source

/-!
Extraction of whole documents: one interpreter runs the content of all pages in order, and what it
reports is assembled.
-/

set_option autoImplicit false

namespace PdfElements

namespace Interpreter

variable {K : Type} [Scalar K]

def runPage (setting : Setting) (number : Nat) (source : PageSource K)
    (interpreter : Interpreter K) : Interpreter K :=
  let started := { interpreter with
      state := .initial number source.cropBox source.resources }.send
    (.pageStart number source.mediaBox.width source.mediaBox.height)
  (Interpretation.run setting source.content started).send (.pageEnd number)

def defect (page : Nat) (description : String) : Warning :=
  { code := .malformedObject, description, page? := some page }

/-- What is read of a page and the descriptions of its defects. A page that cannot be read is
blank. -/
def readPage (setting : Setting) (id : ObjectId) : PageSource K × List String :=
  match PageSource.read setting.store id with
  | .ok source => (source, source.defects.map PageDefect.message)
  | .error failure => (.blank, [failure.message])

def page (setting : Setting) (number : Nat) (id : ObjectId) (interpreter : Interpreter K) :
    Interpreter K :=
  let (source, defects) := readPage setting id
  let warned := defects.foldl
    (fun interpreter description => interpreter.warn setting (defect number description)) interpreter
  warned.runPage setting number source

def stops (setting : Setting) (index : Nat) : Bool :=
  match setting.options.pageLimit? with
  | none => false
  | some limit => limit ≤ index

def limitReached (index total : Nat) : Warning :=
  { code := .resourceLimitReached
    description := "stopped after " ++ toString index ++ " of " ++ toString total ++ " pages"
    page? := some (index + 1) }

/-- Interprets successive pages of a document with so many pages, behind `index` of them. -/
def pages (setting : Setting) (total : Nat) :
    (index : Nat) → List ObjectId → Interpreter K → Interpreter K
  | _, [], interpreter => interpreter
  | index, id :: rest, interpreter =>
    if stops setting index then interpreter.warn setting (limitReached index total)
    else pages setting total (index + 1) rest (interpreter.page setting (index + 1) id)

end Interpreter

namespace Extraction

variable {K : Type} [Scalar K]

/-- What a run over all pages of a document comes by, and would come by where it gets stuck. -/
def trace (store : ObjectStore) (options : ExtractionOptions) : List (Event K) :=
  let ids := PageTree.pages store
  (Interpreter.start.pages ⟨store, options⟩ ids.length 0 ids).events.toList

/-- What is reported of what a run comes by: all, or what there is before it gets stuck. -/
def reported (trace : List (Event K)) : List (Event K) := trace.takeWhile fun event => !event.isStuck

def events (store : ObjectStore) (options : ExtractionOptions) : List (Event K) :=
  reported (trace store options)

/-- What is assembled from a run, which yields nothing if it gets stuck. -/
def assembled (source? : Option String) (places? : Option Nat) (trace : List (Event K)) :
    Option (Assembly K) :=
  if trace.any Event.isStuck then none else some (.ofEvents source? places? trace)

/-- The document that is extracted; none if extraction never ends. -/
def document (store : ObjectStore) (options : ExtractionOptions) (source? : Option String) :
    Option (Assembly K) :=
  assembled source? options.places? (trace store options)

/-- The document that is extracted from the bytes of a file, with the warnings. -/
def file (bytes : List UInt8) (options : ExtractionOptions) (source? : Option String) :
    Except DocumentError (Option (Assembly K)) :=
  (ObjectStore.ofFile bytes).map fun store => document store options source?

end Extraction

end PdfElements
