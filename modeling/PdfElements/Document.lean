import PdfElements.Element
import PdfElements.Warning

/-!
The document that extraction yields, and how it is assembled from the events of a run.
-/

set_option autoImplicit false

namespace PdfElements

/-- The elements of one page in the order in which they were painted. -/
structure Page (K : Type) where
  /-- The number, counted from one. -/
  number : Nat
  width : K
  height : K
  characters : Array (Character K)
  figures : Array (Figure K)
  shapes : Array (Shape K)
  deriving DecidableEq, Repr

namespace Page

variable {K : Type}

/-- A page without elements; its size is rounded. -/
def blank [Scalar K] (number : Nat) (width height : K) (places? : Option Nat) : Page K where
  number
  width := Scalar.roundTo width places?
  height := Scalar.roundTo height places?
  characters := #[]
  figures := #[]
  shapes := #[]

def isEmpty (page : Page K) : Bool :=
  page.characters.isEmpty && page.figures.isEmpty && page.shapes.isEmpty

def text (page : Page K) : String := String.join (page.characters.toList.map Character.text)

end Page

structure Document (K : Type) where
  source? : Option String
  pages : Array (Page K)
  deriving DecidableEq, Repr

namespace Document

variable {K : Type}

def page? (document : Document K) (number : Nat) : Option (Page K) :=
  document.pages.find? fun page => page.number == number

def characters (document : Document K) : List (Character K) :=
  document.pages.toList.flatMap fun page => page.characters.toList

def figures (document : Document K) : List (Figure K) :=
  document.pages.toList.flatMap fun page => page.figures.toList

def shapes (document : Document K) : List (Shape K) :=
  document.pages.toList.flatMap fun page => page.shapes.toList

/-- Changes the first page with a number. -/
def modifyPage (document : Document K) (number : Nat) (change : Page K → Page K) : Document K :=
  match document.pages.findIdx? fun page => page.number == number with
  | some index => { document with pages := document.pages.modify index change }
  | none => document

end Document

/-- What a run reports, in order. -/
inductive Event (K : Type) where
  | pageStart (number : Nat) (width height : K)
  | character (character : Character K)
  | figure (figure : Figure K)
  | shape (shape : Shape K)
  | warning (warning : Warning)
  | pageEnd (number : Nat)
  /-- On a page, a color space is read that never ends. Nothing is reported any more. -/
  | stuck (page : Nat)
  deriving DecidableEq, Repr

def Event.isStuck {K : Type} : Event K → Bool
  | .stuck _ => true
  | _ => false

structure Counts where
  pages : Nat
  characters : Nat
  figures : Nat
  shapes : Nat
  deriving DecidableEq, Repr

/-- A document under construction and the warnings that came with it. -/
structure Assembly (K : Type) where
  document : Document K
  warnings : Array Warning
  counts : Counts
  deriving DecidableEq, Repr

namespace Assembly

variable {K : Type}

def start (source? : Option String) : Assembly K :=
  ⟨⟨source?, #[]⟩, #[], ⟨0, 0, 0, 0⟩⟩

def modifyLast (assembly : Assembly K) (change : Page K → Page K) : Assembly K :=
  let pages := assembly.document.pages
  { assembly with
    document := { assembly.document with pages := pages.modify (pages.size - 1) change } }

/-- Stores an event. Elements go to the page that began last; before any page they are dropped. -/
def add [Scalar K] (places? : Option Nat) (assembly : Assembly K) (event : Event K) : Assembly K :=
  let counts := assembly.counts
  let started := 0 < assembly.document.pages.size
  match event with
  | .pageStart number width height =>
    { assembly with
      document := { assembly.document with
        pages := assembly.document.pages.push (Page.blank number width height places?) }
      counts := { counts with pages := counts.pages + 1 } }
  | .character character =>
    if started then
      { assembly.modifyLast fun page =>
          { page with characters := page.characters.push character } with
        counts := { counts with characters := counts.characters + 1 } }
    else assembly
  | .figure figure =>
    if started then
      { assembly.modifyLast fun page => { page with figures := page.figures.push figure } with
        counts := { counts with figures := counts.figures + 1 } }
    else assembly
  | .shape shape =>
    if started then
      { assembly.modifyLast fun page => { page with shapes := page.shapes.push shape } with
        counts := { counts with shapes := counts.shapes + 1 } }
    else assembly
  | .warning warning => { assembly with warnings := assembly.warnings.push warning }
  | .pageEnd _ | .stuck _ => assembly

def ofEvents [Scalar K] (source? : Option String) (places? : Option Nat) (events : List (Event K)) :
    Assembly K :=
  events.foldl (add places?) (start source?)

def isClean (assembly : Assembly K) : Bool := assembly.warnings.isEmpty

end Assembly

end PdfElements
