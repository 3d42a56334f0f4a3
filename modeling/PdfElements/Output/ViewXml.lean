import PdfElements.Output.View
import PdfElements.Output.Xml

/-!
The XML element that is written of a document.
-/

set_option autoImplicit false

namespace PdfElements

variable {K : Type}

namespace Xml

def textLeaf (tag value : String) : Xml K := .leaf tag (.text value)

def naturalLeaf (tag : String) (value : Nat) : Xml K := .leaf tag (.integer value)

def numberLeaf (tag : String) (value : K) : Xml K := .leaf tag (.number value)

def booleanLeaf (tag : String) (value : Bool) : Xml K := .leaf tag (.boolean value)

def colorReference (id : String) : Xml K := .node "color" [textLeaf "id" id]

end Xml

open Xml

def Position.toXml (position : Position K) : Xml K :=
  .node "position"
    [naturalLeaf "page" position.page, numberLeaf "minX" position.rect.minX,
     numberLeaf "minY" position.rect.minY, numberLeaf "maxX" position.rect.maxX,
     numberLeaf "maxY" position.rect.maxY]

def FontReference.toXml (reference : FontReference K) : Xml K :=
  .node "font" [textLeaf "id" reference.id, numberLeaf "fontsize" reference.size]

def CharacterEntry.toXml (entry : CharacterEntry K) : Xml K :=
  .node "character"
    ([entry.position.toXml] ++ (entry.font?.map FontReference.toXml).toList ++
      [colorReference entry.colorId, textLeaf "text" entry.text])

def Position.figureToXml (position : Position K) : Xml K := .node "figure" [position.toXml]

def ShapeEntry.toXml (entry : ShapeEntry K) : Xml K :=
  .node "shape" [entry.position.toXml, colorReference entry.colorId]

def FontEntry.toXml (entry : FontEntry) : Xml K :=
  .node "font"
    [textLeaf "id" entry.id, textLeaf "name" entry.font.name,
     booleanLeaf "isBold" entry.font.bold, booleanLeaf "isItalic" entry.font.italic,
     booleanLeaf "isType3" entry.font.type3]

def ColorEntry.toXml (entry : ColorEntry) : Xml K :=
  .node "color"
    [textLeaf "id" entry.id, naturalLeaf "r" entry.color.red.toNat,
     naturalLeaf "g" entry.color.green.toNat, naturalLeaf "b" entry.color.blue.toNat]

def PageEntry.toXml (entry : PageEntry K) : Xml K :=
  .node "page"
    [naturalLeaf "id" entry.number, numberLeaf "width" entry.width,
     numberLeaf "height" entry.height]

namespace View

def elementNode {α : Type} (tag : String) (encode : α → Xml K) (entries? : Option (List α)) :
    List (Xml K) :=
  match entries? with
  | some entries => [.node tag (entries.map encode)]
  | none => []

def listNode {α : Type} (tag : String) (encode : α → Xml K) (entries : List α) : List (Xml K) :=
  if entries.isEmpty then [] else [.node tag (entries.map encode)]

def toXml (view : View K) : Xml K :=
  .node "document"
    (elementNode "characters" CharacterEntry.toXml view.characters? ++
      elementNode "figures" Position.figureToXml view.figures? ++
      elementNode "shapes" ShapeEntry.toXml view.shapes? ++
      listNode "fonts" FontEntry.toXml view.fonts ++
      listNode "colors" ColorEntry.toXml view.colors ++
      listNode "pages" PageEntry.toXml view.pages)

end View

end PdfElements
