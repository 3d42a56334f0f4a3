import PdfElements.Color
import PdfElements.Font.Name
import PdfElements.Geometry.Rect
import PdfElements.Text.Blank

/-!
The elements that a page is reduced to: characters, figures and shapes.
-/

set_option autoImplicit false

namespace PdfElements

/-- One glyph shown on a page. -/
structure Character (K : Type) where
  /-- The decoded text; a ligature may have several characters. -/
  text : String
  /-- Number of the page, counted from one. -/
  page : Nat
  rect : Rect K
  font : Font
  size : K
  color : Color
  /-- Place in the order in which all glyphs of the document were shown. -/
  rank : Nat
  deriving DecidableEq, Repr

/-- An image whose pixels differ. -/
structure Figure (K : Type) where
  page : Nat
  rect : Rect K
  deriving DecidableEq, Repr

/-- A painted path, or an image whose pixels all have one color. -/
structure Shape (K : Type) where
  page : Nat
  rect : Rect K
  color : Color
  deriving DecidableEq, Repr

/-- The kinds of elements, in the order in which output lists them. -/
inductive ElementType where
  | characters
  | figures
  | shapes
  deriving DecidableEq, Repr

namespace ElementType

def all : List ElementType := [.characters, .figures, .shapes]

def name : ElementType → String
  | .characters => "characters"
  | .figures => "figures"
  | .shapes => "shapes"

def singular : ElementType → String
  | .characters => "character"
  | .figures => "figure"
  | .shapes => "shape"

end ElementType

/-- Equality of texts in which letters of either case are the same, for ASCII letters only. -/
def Text.equalsIgnoringCase (first second : String) : Bool :=
  first.toList.map Char.toLower == second.toList.map Char.toLower

structure UnknownElementType where
  name : String
  deriving DecidableEq, Repr

def UnknownElementType.message (unknown : UnknownElementType) : String :=
  "unknown element type '" ++ unknown.name ++ "' (expected one of: characters, figures, shapes)"

/-- The kind of a name, in any case and with white space around it. -/
def ElementType.ofName (name : String) : Except UnknownElementType ElementType :=
  match ElementType.all.find? fun type => Text.equalsIgnoringCase type.name (Text.trim name) with
  | some type => .ok type
  | none => .error ⟨name⟩

/-- The kinds of several names; the first unknown one is the error. -/
def ElementType.ofNames (names : List String) : Except UnknownElementType (List ElementType) :=
  names.mapM ElementType.ofName

end PdfElements
