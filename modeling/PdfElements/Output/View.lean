import PdfElements.Document

/-!
What is written of a document: lists of the wanted elements, and the fonts and colors that these
refer to. Fonts and colors are numbered in the order in which elements first refer to them.
-/

set_option autoImplicit false

namespace PdfElements

/-- Items that were numbered when they first came up: a map from the items to their places, and the
items by their places. -/
structure Interner (α : Type) where
  places : List (α × Nat) := []
  order : Array α := #[]
  deriving Repr

/-- The place of an item. One that has none yet gets the next place. -/
def Interner.intern {α : Type} [BEq α] (interner : Interner α) (item : α) : Nat × Interner α :=
  let next := interner.order.size
  let (place, places) :=
    match interner.places.lookup item with
    | some place => (place, interner.places)
    | none => (next, (item, next) :: interner.places)
  (place, ⟨places, if place = next then interner.order.push item else interner.order⟩)

/-- The fonts and colors that were referred to so far. -/
structure ResourceIds where
  fonts : Interner Font := {}
  colors : Interner Color := {}
  deriving Repr

namespace ResourceIds

def fontIdAt (place : Nat) : String := "font-" ++ toString (place + 1)

def colorIdAt (place : Nat) : String := "color-" ++ toString (place + 1)

def fontId (font : Font) : StateM ResourceIds String := fun ids =>
  let (place, fonts) := ids.fonts.intern font
  (fontIdAt place, { ids with fonts })

def colorId (color : Color) : StateM ResourceIds String := fun ids =>
  let (place, colors) := ids.colors.intern color
  (colorIdAt place, { ids with colors })

end ResourceIds

structure Position (K : Type) where
  page : Nat
  rect : Rect K
  deriving DecidableEq, Repr

/-- A reference to a font, with the size in which it is used. -/
structure FontReference (K : Type) where
  id : String
  size : K
  deriving DecidableEq, Repr

structure CharacterEntry (K : Type) where
  position : Position K
  font? : Option (FontReference K)
  colorId : String
  text : String
  deriving DecidableEq, Repr

structure ShapeEntry (K : Type) where
  position : Position K
  colorId : String
  deriving DecidableEq, Repr

structure FontEntry where
  id : String
  font : Font
  deriving DecidableEq, Repr

structure ColorEntry where
  id : String
  color : Color
  deriving DecidableEq, Repr

structure PageEntry (K : Type) where
  number : Nat
  width : K
  height : K
  deriving DecidableEq, Repr

/-- What is written of a document. Elements that are not wanted have no list. -/
structure View (K : Type) where
  characters? : Option (List (CharacterEntry K))
  figures? : Option (List (Position K))
  shapes? : Option (List (ShapeEntry K))
  fonts : List FontEntry
  colors : List ColorEntry
  pages : List (PageEntry K)

namespace View

variable {K : Type} [Scalar K]

/-- Whether a character refers to its font: a font without a size says nothing. -/
def refersToFont (character : Character K) : Bool := Scalar.ofInt 0 < character.size

def characterEntry (character : Character K) : StateM ResourceIds (CharacterEntry K) := do
  let font? ←
    if refersToFont character then
      pure (some ⟨← ResourceIds.fontId character.font, character.size⟩)
    else
      pure none
  let colorId ← ResourceIds.colorId character.color
  return ⟨⟨character.page, character.rect⟩, font?, colorId, character.text⟩

def shapeEntry (shape : Shape K) : StateM ResourceIds (ShapeEntry K) := do
  return ⟨⟨shape.page, shape.rect⟩, ← ResourceIds.colorId shape.color⟩

def wanted {α : Type} (types : List ElementType) (type : ElementType) (elements : List α) :
    Option (List α) :=
  if types.contains type then some elements else none

/-- What is written of the wanted elements that refer to fonts and colors: all the characters come
before the shapes. -/
def referringEntries (document : Document K) (types : List ElementType) :
    StateM ResourceIds (Option (List (CharacterEntry K)) × Option (List (ShapeEntry K))) := do
  let characters? ←
    (wanted types .characters document.characters).mapM (List.mapM characterEntry)
  let shapes? ← (wanted types .shapes document.shapes).mapM (List.mapM shapeEntry)
  return (characters?, shapes?)

/-- What is written of a document when elements of the given types are wanted. The fonts and colors
are those that the elements turned out to refer to. -/
def ofDocument (document : Document K) (types : List ElementType) : View K :=
  let ((characters?, shapes?), ids) := (referringEntries document types).run {}
  { characters?
    figures? := (wanted types .figures document.figures).map fun figures =>
      figures.map fun figure => ⟨figure.page, figure.rect⟩
    shapes?
    fonts := ids.fonts.order.toList.zipIdx.map fun (font, place) =>
      ⟨ResourceIds.fontIdAt place, font⟩
    colors := ids.colors.order.toList.zipIdx.map fun (color, place) =>
      ⟨ResourceIds.colorIdAt place, color⟩
    pages := document.pages.toList.map fun page => ⟨page.number, page.width, page.height⟩ }

end View

end PdfElements
