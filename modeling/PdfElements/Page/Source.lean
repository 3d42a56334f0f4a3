import PdfElements.Geometry.Rect
import PdfElements.Interpretation.Fault
import PdfElements.Page.Tree

/-!
What the interpretation of a page starts from: its boxes, its resources and its content. Defects
are kept, and what is missing is replaced.
-/

set_option autoImplicit false

namespace PdfElements

/-- A defect of a page that leaves something to interpret. -/
inductive PageDefect where
  | noBox
  | resources
  | content (failure : Failure)
  deriving DecidableEq, Repr

def PageDefect.message : PageDefect → String
  | .noBox => "page has no MediaBox; assuming US Letter"
  | .resources => "/Resources is not a dictionary"
  | .content failure => failure.message

structure PageSource (K : Type) where
  mediaBox : Rect K
  cropBox : Rect K
  resources : Located Dictionary
  content : List UInt8
  defects : List PageDefect

namespace PageSource

variable {K : Type} [Scalar K]

/-- The box of a page that gives none: a letter-size sheet. -/
def standardBox : Rect K :=
  ⟨Scalar.ofInt 0, Scalar.ofInt 0, Scalar.ofInt 612, Scalar.ofInt 792⟩

def blank : PageSource K := ⟨standardBox, standardBox, .nothing, [], []⟩

/-- The box that a page has or inherits under a key, if it has an area. -/
def box? (store : ObjectStore) (page : ObjectId) (key : String) : Option (Rect K) := do
  let object ← (← (PageTree.inherited store page key).toOption)
  let items ← (store.resolve object).array?
  match ← items.mapM store.numberOf? with
  | [x₀, y₀, x₁, y₁] =>
    let box : Rect K := .ofCorners x₀ y₀ x₁ y₁
    if Scalar.ofInt 0 < box.width && Scalar.ofInt 0 < box.height then some box else none
  | _ => none

def part (store : ObjectStore) (item : Object) : Except Failure (List UInt8) := do
  let stream ← (store.resolve item).asStream.mapError fun fault =>
    .parse ("/Contents array item is not a stream: " ++ fault.message)
  stream.decode.mapError FilterFault.toFailure

def join (content more : List UInt8) : List UInt8 :=
  if content.isEmpty then more else content ++ 0x20 :: more

def pageContent (store : ObjectStore) (page : Dictionary) : Except Failure (List UInt8) :=
  match store.find? page "Contents" with
  | none => .ok []
  | some (.stream entries data) =>
    (Stream.decode ⟨entries, data⟩).mapError FilterFault.toFailure
  | some (.array items) =>
    items.foldlM (fun content item => do return join content (← part store item)) []
  | some _ => .error (.parse "/Contents is not a stream or array")

def pageResources (store : ObjectStore) (found? : Option (Located Object)) :
    Located Dictionary × List PageDefect :=
  match found? with
  | none => (.nothing, [])
  | some object =>
    match (store.resolveAt object).as? Object.dictionary? with
    | some resources => (resources, [])
    | none => (.nothing, [.resources])

/-- The box of a page's sheet, under the first of several keys that gives one. -/
def sheet (store : ObjectStore) (page : ObjectId) : Rect K × List PageDefect :=
  match ["MediaBox", "CropBox", "TrimBox"].findSome? (box? store page) with
  | some box => (box, [])
  | none => (standardBox, [.noBox])

/-- The content of a page, or none with a defect. -/
def contentOrDefect (store : ObjectStore) (page : Dictionary) : List UInt8 × List PageDefect :=
  match pageContent store page with
  | .ok content => (content, [])
  | .error failure => ([], [.content failure])

def read (store : ObjectStore) (page : ObjectId) : Except Failure (PageSource K) := do
  let (mediaBox, boxDefects) : Rect K × List PageDefect := sheet store page
  let found? ← match PageTree.inheritedAt store "Resources" PageTree.heightLimit page with
    | .ok found? => .ok found?
    | .error fault => .error (.parse fault.message)
  let (resources, resourceDefects) := pageResources store found?
  let dictionary ← match store.dictionary page with
    | .ok dictionary => .ok dictionary
    | .error fault => .error (.parse fault.message)
  let (content, contentDefects) := contentOrDefect store dictionary
  return {
    mediaBox, resources, content
    cropBox := (box? store page "CropBox").getD mediaBox
    defects := boxDefects ++ resourceDefects ++ contentDefects }

end PageSource

end PdfElements
