import PdfElements.Output.ViewJson
import PdfElements.Output.ViewXml

/-! What is written of a document in JSON and in XML: the same values under the same names, in the
same order. An item of a JSON array has no name. It has the tag of the element in its place, which
is the name of the list without its last letter, and an object that only wraps a value under that
name counts as the value. -/

set_option autoImplicit false

namespace PdfElements

variable {K : Type}

/-- What is at the end of a path of names: a value, or a list or an object with nothing in it. -/
inductive Leaf (K : Type) where
  | value (value : XmlLeaf K)
  | null
  | empty
  deriving DecidableEq, Repr

namespace Leaf

/-- Leaves behind another name. Where there are none, there is an empty one. -/
def under (name : String) : List (List String × Leaf K) → List (List String × Leaf K)
  | [] => [([name], .empty)]
  | leaves => leaves.map fun (path, leaf) => (name :: path, leaf)

def inside (leaves : List (List String × Leaf K)) : List (List String × Leaf K) :=
  leaves.map fun (path, leaf) => (path.tail, leaf)

theorem under_ne_nil (name : String) (leaves : List (List String × Leaf K)) :
    under name leaves ≠ [] := by
  cases leaves <;> simp [under]

theorem inside_under (name : String) {leaves : List (List String × Leaf K)} (some : leaves ≠ []) :
    inside (under name leaves) = leaves := by
  cases leaves with
  | nil => exact absurd rfl some
  | cons leaf others => simp [inside, under, Function.comp_def]

end Leaf

namespace Xml

mutual

def leaves : Xml K → List (List String × Leaf K)
  | .leaf tag value => [([tag], .value value)]
  | .node tag children => Leaf.under tag (childLeaves children)

def childLeaves : List (Xml K) → List (List String × Leaf K)
  | [] => []
  | child :: others => leaves child ++ childLeaves others

end

def tag : Xml K → String
  | .leaf tag _ => tag
  | .node tag _ => tag

def children : Xml K → List (Xml K)
  | .leaf _ _ => []
  | .node _ children => children

def child? (element : Xml K) (tag : String) : Option (Xml K) :=
  element.children.find? fun child => child.tag == tag

end Xml

namespace Json

def itemTag (list : String) : String := String.ofList list.toList.dropLast

/-- Whether a value is an object with nothing but a field of the given name. -/
def wraps (name : String) : Json K → Bool
  | .object [(key, _)] => key == name
  | _ => false

mutual

def leaves (name : String) : Json K → List (List String × Leaf K)
  | .null => [([name], .null)]
  | .boolean value => [([name], .value (.boolean value))]
  | .integer value => [([name], .value (.integer value))]
  | .number value => [([name], .value (.number value))]
  | .text value => [([name], .value (.text value))]
  | .array items => Leaf.under name (itemLeaves (itemTag name) items)
  | .object fields => Leaf.under name (fieldLeaves fields)

def itemLeaves (tag : String) : List (Json K) → List (List String × Leaf K)
  | [] => []
  | item :: others =>
    (if item.wraps tag then Leaf.inside (leaves tag item) else leaves tag item) ++
      itemLeaves tag others

def fieldLeaves : List (String × Json K) → List (List String × Leaf K)
  | [] => []
  | (key, value) :: others => leaves key value ++ fieldLeaves others

end

def items : Json K → List (Json K)
  | .array items => items
  | _ => []

theorem leaves_ne_nil (name : String) (json : Json K) : json.leaves name ≠ [] := by
  cases json with
  | null | boolean | integer | number | text => simp [leaves]
  | array | object => exact Leaf.under_ne_nil _ _

mutual

/-- An element has the structure of a JSON value under a name. -/
inductive Mirrored : String → Json K → Xml K → Prop
  | boolean (name : String) (value : Bool) :
      Mirrored name (.boolean value) (.leaf name (.boolean value))
  | integer (name : String) (value : Int) :
      Mirrored name (.integer value) (.leaf name (.integer value))
  | number (name : String) (value : K) : Mirrored name (.number value) (.leaf name (.number value))
  | text (name value : String) : Mirrored name (.text value) (.leaf name (.text value))
  | array {name : String} {items : List (Json K)} {children : List (Xml K)} :
      MirroredItems (itemTag name) items children →
      Mirrored name (.array items) (.node name children)
  | object {name : String} {fields : List (String × Json K)} {children : List (Xml K)} :
      MirroredFields fields children → Mirrored name (.object fields) (.node name children)

inductive MirroredItem : String → Json K → Xml K → Prop
  | bare {tag : String} {item : Json K} {child : Xml K} :
      item.wraps tag = false → Mirrored tag item child → MirroredItem tag item child
  | wrapped {tag : String} {value : Json K} {child : Xml K} :
      Mirrored tag value child → MirroredItem tag (.object [(tag, value)]) child

inductive MirroredItems : String → List (Json K) → List (Xml K) → Prop
  | nil (tag : String) : MirroredItems tag [] []
  | cons {tag : String} {item : Json K} {child : Xml K} {items : List (Json K)}
      {children : List (Xml K)} : MirroredItem tag item child → MirroredItems tag items children →
      MirroredItems tag (item :: items) (child :: children)

inductive MirroredFields : List (String × Json K) → List (Xml K) → Prop
  | nil : MirroredFields [] []
  | cons {key : String} {value : Json K} {child : Xml K} {fields : List (String × Json K)}
      {children : List (Xml K)} : Mirrored key value child → MirroredFields fields children →
      MirroredFields ((key, value) :: fields) (child :: children)

end

theorem wraps_object (tag : String) (value : Json K) :
    wraps tag (.object [(tag, value)]) = true :=
  beq_self_eq_true tag

theorem inside_leaves_object (tag : String) (value : Json K) :
    Leaf.inside (leaves tag (.object [(tag, value)])) = value.leaves tag := by
  rw [leaves, fieldLeaves, fieldLeaves, List.append_nil]
  exact Leaf.inside_under tag (leaves_ne_nil tag value)

mutual

theorem Mirrored.leaves_eq {name : String} {json : Json K} {xml : Xml K} :
    Mirrored name json xml → xml.leaves = json.leaves name
  | .boolean _ _ | .integer _ _ | .number _ _ | .text _ _ => rfl
  | .array items => congrArg (Leaf.under name) items.leaves_eq
  | .object fields => congrArg (Leaf.under name) fields.leaves_eq

theorem MirroredItem.leaves_eq {tag : String} {item : Json K} {child : Xml K} :
    MirroredItem tag item child → child.leaves =
      if item.wraps tag then Leaf.inside (item.leaves tag) else item.leaves tag
  | .bare plain mirrored => by
      rw [plain, mirrored.leaves_eq]
      rfl
  | .wrapped mirrored => by
      rw [wraps_object, inside_leaves_object, mirrored.leaves_eq]
      rfl

theorem MirroredItems.leaves_eq {tag : String} {items : List (Json K)} {children : List (Xml K)} :
    MirroredItems tag items children → Xml.childLeaves children = itemLeaves tag items
  | .nil _ => rfl
  | .cons item others => by rw [Xml.childLeaves, itemLeaves, item.leaves_eq, others.leaves_eq]

theorem MirroredFields.leaves_eq {fields : List (String × Json K)} {children : List (Xml K)} :
    MirroredFields fields children → Xml.childLeaves children = fieldLeaves fields
  | .nil => rfl
  | .cons value others => by
      rw [Xml.childLeaves, fieldLeaves, value.leaves_eq, others.leaves_eq]

end

theorem Mirrored.tag_eq {name : String} {json : Json K} {xml : Xml K}
    (mirrored : Mirrored name json xml) : xml.tag = name := by
  cases mirrored <;> rfl

namespace MirroredFields

variable {fields otherFields : List (String × Json K)} {children otherChildren : List (Xml K)}

theorem append (first : MirroredFields fields children)
    (second : MirroredFields otherFields otherChildren) :
    MirroredFields (fields ++ otherFields) (children ++ otherChildren) := by
  induction fields generalizing children with
  | nil =>
      cases first
      exact second
  | cons field others ih =>
      cases first with
      | cons value rest => exact .cons value (ih rest)

theorem one {key : String} {value : Json K} {child : Xml K} (mirrored : Mirrored key value child) :
    MirroredFields [(key, value)] [child] :=
  .cons mirrored .nil

theorem isSome_find (mirrored : MirroredFields fields children) (key : String) :
    (children.find? fun child => child.tag == key).isSome = (fields.lookup key).isSome := by
  induction fields generalizing children with
  | nil =>
      cases mirrored
      rfl
  | cons field others ih =>
      obtain ⟨name, value⟩ := field
      cases mirrored with
      | cons child rest =>
          rw [List.find?_cons, child.tag_eq, List.lookup_cons, BEq.comm]
          cases key == name with
          | true => rfl
          | false => exact ih rest

end MirroredFields

theorem MirroredItems.map {α : Type} {tag : String} {encode : α → Json K} {element : α → Xml K}
    (mirrored : ∀ entry, MirroredItem tag (encode entry) (element entry)) (entries : List α) :
    MirroredItems tag (entries.map encode) (entries.map element) := by
  induction entries with
  | nil => exact .nil tag
  | cons entry others ih => exact .cons (mirrored entry) ih

end Json

open Json

theorem Position.mirrored (position : Position K) :
    Mirrored "position" position.toJson position.toXml :=
  .object <| .cons (.integer _ _) <| .cons (.number _ _) <| .cons (.number _ _) <|
    .cons (.number _ _) <| .cons (.number _ _) .nil

theorem FontReference.mirrored (reference : FontReference K) :
    Mirrored "font" reference.toJson reference.toXml :=
  .object <| .cons (.text _ _) <| .cons (.number _ _) .nil

theorem mirrored_colorReference (id : String) :
    Mirrored (K := K) "color" (.reference id) (Xml.colorReference id) :=
  .object <| .one (.text _ _)

theorem CharacterEntry.mirrored (entry : CharacterEntry K) :
    MirroredItem "character" entry.toJson entry.toXml := by
  obtain ⟨position, font?, colorId, text⟩ := entry
  have behind : MirroredFields (K := K) [("color", .reference colorId), ("text", .text text)]
      [Xml.colorReference colorId, Xml.textLeaf "text" text] :=
    .cons (mirrored_colorReference colorId) (.one (.text _ _))
  cases font? with
  | none => exact .wrapped (.object (.cons position.mirrored behind))
  | some font => exact .wrapped (.object (.cons position.mirrored (.cons font.mirrored behind)))

theorem Position.mirrored_figure (position : Position K) :
    MirroredItem "figure" position.figureToJson position.figureToXml :=
  .wrapped <| .object <| .one position.mirrored

theorem ShapeEntry.mirrored (entry : ShapeEntry K) :
    MirroredItem "shape" entry.toJson entry.toXml :=
  .wrapped <| .object <| .cons entry.position.mirrored <| .one (mirrored_colorReference _)

theorem FontEntry.mirrored (entry : FontEntry) :
    MirroredItem (K := K) "font" entry.toJson entry.toXml :=
  .bare rfl <| .object <| .cons (.text _ _) <| .cons (.text _ _) <| .cons (.boolean _ _) <|
    .cons (.boolean _ _) <| .one (.boolean _ _)

theorem ColorEntry.mirrored (entry : ColorEntry) :
    MirroredItem (K := K) "color" entry.toJson entry.toXml :=
  .bare rfl <| .object <| .cons (.text _ _) <| .cons (.integer _ _) <| .cons (.integer _ _) <|
    .one (.integer _ _)

theorem PageEntry.mirrored (entry : PageEntry K) :
    MirroredItem "page" entry.toJson entry.toXml :=
  .bare rfl <| .object <| .cons (.integer _ _) <| .cons (.number _ _) <| .one (.number _ _)

namespace View

section lists

variable {α : Type} {name tag : String} {encode : α → Json K} {element : α → Xml K}

theorem mirrored_array (plural : tag ++ "s" = name)
    (mirrored : ∀ entry, MirroredItem tag (encode entry) (element entry)) (entries : List α) :
    Mirrored name (.array (entries.map encode)) (.node name (entries.map element)) := by
  have items := MirroredItems.map mirrored entries
  have isTag : itemTag name = tag := by simp [itemTag, ← plural]
  rw [← isTag] at items
  exact .array items

theorem mirrored_elements (plural : tag ++ "s" = name)
    (mirrored : ∀ entry, MirroredItem tag (encode entry) (element entry))
    (entries? : Option (List α)) :
    MirroredFields (elementField name encode entries?) (elementNode name element entries?) := by
  cases entries? with
  | none => exact .nil
  | some entries => exact .one (mirrored_array plural mirrored entries)

theorem mirrored_list (plural : tag ++ "s" = name)
    (mirrored : ∀ entry, MirroredItem tag (encode entry) (element entry)) (entries : List α) :
    MirroredFields (listField name encode entries) (listNode name element entries) := by
  unfold listField listNode
  split
  · exact .nil
  · exact .one (mirrored_array plural mirrored entries)

end lists

theorem mirrored_fields (view : View K) : ∃ fields children,
    view.toJson = .object fields ∧ view.toXml = .node "document" children ∧
      MirroredFields fields children := by
  refine ⟨_, _, rfl, rfl, ?_⟩
  refine .append (.append (.append (.append (.append ?_ ?_) ?_) ?_) ?_) ?_
  · exact mirrored_elements (by decide) CharacterEntry.mirrored _
  · exact mirrored_elements (by decide) Position.mirrored_figure _
  · exact mirrored_elements (by decide) ShapeEntry.mirrored _
  · exact mirrored_list (by decide) FontEntry.mirrored _
  · exact mirrored_list (by decide) ColorEntry.mirrored _
  · exact mirrored_list (by decide) PageEntry.mirrored _

section finding

variable {α : Type} {name key : String} {encode : α → Json K} {element : α → Xml K}

theorem lookup_elementField (entries? : Option (List α)) :
    (elementField name encode entries?).lookup key =
      if key = name then entries?.map fun entries => .array (entries.map encode) else none := by
  cases entries? with
  | none => simp [elementField]
  | some entries =>
      by_cases same : key = name
      · simp [elementField, same]
      · simp [elementField, List.lookup_cons, same, beq_false_of_ne same]

theorem lookup_listField_of_ne (other : key ≠ name) (entries : List α) :
    (listField name encode entries).lookup key = none := by
  unfold listField
  split <;> simp [List.lookup_cons, beq_false_of_ne other]

theorem find_elementNode (entries? : Option (List α)) :
    (elementNode name element entries?).find? (fun child => child.tag == key) =
      if name = key then entries?.map fun entries => .node name (entries.map element)
      else none := by
  cases entries? with
  | none => simp [elementNode]
  | some entries => by_cases same : name = key <;> simp [elementNode, Xml.tag, same]

theorem find_listNode_of_ne (other : name ≠ key) (entries : List α) :
    (listNode name element entries).find? (fun child => child.tag == key) = none := by
  unfold listNode
  split <;> simp [Xml.tag, other]

end finding

theorem field_characters (view : View K) : view.toJson.field? "characters" =
    view.characters?.map fun entries => .array (entries.map CharacterEntry.toJson) := by
  simp [toJson, field?, List.lookup_append, lookup_elementField, lookup_listField_of_ne]

theorem child_characters (view : View K) : view.toXml.child? "characters" =
    view.characters?.map fun entries => .node "characters" (entries.map CharacterEntry.toXml) := by
  simp [toXml, Xml.child?, Xml.children, find_elementNode, find_listNode_of_ne]

end View

def Json.characterFont? (document : Json K) (place : Nat) : Option (Json K) := do
  let characters ← document.field? "characters"
  let item ← characters.items[place]?
  let character ← item.field? "character"
  character.field? "font"

def Xml.characterFont? (document : Xml K) (place : Nat) : Option (Xml K) := do
  let characters ← document.child? "characters"
  let character ← characters.children[place]?
  character.child? "font"

theorem CharacterEntry.font_toJson (entry : CharacterEntry K) :
    (entry.toJson.field? "character").bind (·.field? "font") =
      entry.font?.map FontReference.toJson := by
  cases found : entry.font? <;> simp [toJson, found, field?, List.lookup_cons]

theorem CharacterEntry.font_toXml (entry : CharacterEntry K) :
    entry.toXml.child? "font" = entry.font?.map FontReference.toXml := by
  cases found : entry.font? <;>
    simp [toXml, found, Xml.child?, Xml.children, Xml.tag, Position.toXml, FontReference.toXml,
      Xml.colorReference, Xml.textLeaf]

namespace View

theorem characterFont_toJson (view : View K) (place : Nat) : view.toJson.characterFont? place =
    ((view.characters?.bind (·[place]?)).bind CharacterEntry.font?).map FontReference.toJson := by
  rw [Json.characterFont?, field_characters]
  cases view.characters? with
  | none => rfl
  | some entries =>
      simp only [Option.map_some, Option.bind_eq_bind, Option.bind_some, Json.items,
        List.getElem?_map]
      cases entries[place]? with
      | none => rfl
      | some entry => exact entry.font_toJson

theorem characterFont_toXml (view : View K) (place : Nat) : view.toXml.characterFont? place =
    ((view.characters?.bind (·[place]?)).bind CharacterEntry.font?).map FontReference.toXml := by
  rw [Xml.characterFont?, child_characters]
  cases view.characters? with
  | none => rfl
  | some entries =>
      simp only [Option.map_some, Option.bind_eq_bind, Option.bind_some, Xml.children,
        List.getElem?_map]
      cases entries[place]? with
      | none => rfl
      | some entry => exact entry.font_toXml

/-- What is written of a document in XML has the leaves of what is written of it in JSON: in the same
order, with the same values, behind the same names. A list is in both or in none, and so is the font
of a character. -/
theorem json_and_xml_have_same_leaves [Scalar K] (document : Document K)
    (types : List ElementType) :
    let view := ofDocument document types
    view.toXml.leaves = view.toJson.leaves "document" ∧
      (∀ list, (view.toXml.child? list).isSome = (view.toJson.field? list).isSome) ∧
      ∀ place, (view.toXml.characterFont? place).isSome =
        (view.toJson.characterFont? place).isSome := by
  intro view
  obtain ⟨fields, children, json, xml, mirrored⟩ := view.mirrored_fields
  refine ⟨?_, ?_, ?_⟩
  · rw [json, xml]
    exact (Mirrored.object mirrored).leaves_eq
  · intro list
    rw [json, xml]
    exact mirrored.isSome_find list
  · intro place
    rw [characterFont_toXml, characterFont_toJson, Option.isSome_map, Option.isSome_map]

end View

end PdfElements
