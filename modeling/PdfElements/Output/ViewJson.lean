import PdfElements.Output.Json
import PdfElements.Output.View

/-!
The JSON value that is written of a document.
-/

set_option autoImplicit false

namespace PdfElements

variable {K : Type}

def Json.natural (value : Nat) : Json K := .integer value

def Json.reference (id : String) : Json K := .object [("id", .text id)]

def Position.toJson (position : Position K) : Json K :=
  .object
    [("page", .natural position.page), ("minX", .number position.rect.minX),
     ("minY", .number position.rect.minY), ("maxX", .number position.rect.maxX),
     ("maxY", .number position.rect.maxY)]

def FontReference.toJson (reference : FontReference K) : Json K :=
  .object [("id", .text reference.id), ("fontsize", .number reference.size)]

def CharacterEntry.toJson (entry : CharacterEntry K) : Json K :=
  let font := match entry.font? with
    | some reference => [("font", reference.toJson)]
    | none => []
  .object [("character", .object
    ([("position", entry.position.toJson)] ++ font ++
      [("color", .reference entry.colorId), ("text", .text entry.text)]))]

def Position.figureToJson (position : Position K) : Json K :=
  .object [("figure", .object [("position", position.toJson)])]

def ShapeEntry.toJson (entry : ShapeEntry K) : Json K :=
  .object [("shape", .object
    [("position", entry.position.toJson), ("color", .reference entry.colorId)])]

def FontEntry.toJson (entry : FontEntry) : Json K :=
  .object
    [("id", .text entry.id), ("name", .text entry.font.name),
     ("isBold", .boolean entry.font.bold), ("isItalic", .boolean entry.font.italic),
     ("isType3", .boolean entry.font.type3)]

def ColorEntry.toJson (entry : ColorEntry) : Json K :=
  .object
    [("id", .text entry.id), ("r", .natural entry.color.red.toNat),
     ("g", .natural entry.color.green.toNat), ("b", .natural entry.color.blue.toNat)]

def PageEntry.toJson (entry : PageEntry K) : Json K :=
  .object
    [("id", .natural entry.number), ("width", .number entry.width),
     ("height", .number entry.height)]

namespace View

def elementField {α : Type} (name : String) (encode : α → Json K) (entries? : Option (List α)) :
    List (String × Json K) :=
  match entries? with
  | some entries => [(name, .array (entries.map encode))]
  | none => []

def listField {α : Type} (name : String) (encode : α → Json K) (entries : List α) :
    List (String × Json K) :=
  if entries.isEmpty then [] else [(name, .array (entries.map encode))]

def toJson (view : View K) : Json K :=
  .object
    (elementField "characters" CharacterEntry.toJson view.characters? ++
      elementField "figures" Position.figureToJson view.figures? ++
      elementField "shapes" ShapeEntry.toJson view.shapes? ++
      listField "fonts" FontEntry.toJson view.fonts ++
      listField "colors" ColorEntry.toJson view.colors ++
      listField "pages" PageEntry.toJson view.pages)

end View

end PdfElements
