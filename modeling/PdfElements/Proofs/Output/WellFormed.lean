import PdfElements.Output.Format
import PdfElements.Proofs.Output.Leaves
import PdfElements.Proofs.Output.References

/-! What is written of a document in XML, read by the grammar of XML 1.0. The tags always match. The
text is an XML document if, and only if, no text of a character and no name of a font has a
character that XML does not allow: these are written as they are. -/

set_option autoImplicit false

namespace PdfElements

namespace Xml

/-- The production `Char` of XML 1.0: whether a character may stand in a document. -/
def isCharacter (character : Char) : Bool :=
  let code := character.toNat
  code == 0x9 || code == 0xA || code == 0xD || (0x20 ≤ code && code ≤ 0xD7FF) ||
    (0xE000 ≤ code && code ≤ 0xFFFD) || (0x10000 ≤ code && code ≤ 0x10FFFF)

/-- Whether every character of a text may stand in a document. -/
def IsText (text : String) : Prop := ∀ character ∈ text.toList, isCharacter character

instance (text : String) : Decidable (IsText text) :=
  decidable_of_iff (text.toList.all isCharacter = true) List.all_eq_true

/-- A name of letters and digits that begins with a letter. -/
def isName (name : String) : Bool :=
  match name.toList with
  | [] => false
  | first :: others => first.isAlpha && others.all Char.isAlphanum

def startTag (name : String) : List Char := '<' :: name.toList ++ ['>']

def endTag (name : String) : List Char := '<' :: '/' :: name.toList ++ ['>']

def predefined : List String := ["amp", "lt", "gt", "apos", "quot"]

/-- What stands between two tags: text, references to the predefined entities and elements. This is
the production `content` of XML 1.0 without comments, sections, instructions and attributes. -/
inductive IsContent (legal : Char → Prop) : List Char → Prop where
  | nil : IsContent legal []
  | character {character : Char} {rest : List Char} :
      legal character → character ∉ ['&', '<', '>'] → IsContent legal rest →
      IsContent legal (character :: rest)
  | reference {name : String} {rest : List Char} :
      name ∈ predefined → IsContent legal rest →
      IsContent legal ('&' :: name.toList ++ ';' :: rest)
  | element {name : String} {inner rest : List Char} :
      isName name → IsContent legal inner → IsContent legal rest →
      IsContent legal (startTag name ++ inner ++ endTag name ++ rest)

/-- An element with its tags. One with `isCharacter` is an XML document. -/
def IsElement (legal : Char → Prop) (name : String) (text : List Char) : Prop :=
  isName name ∧ ∃ inner, IsContent legal inner ∧ text = startTag name ++ inner ++ endTag name

section grammar

variable {legal : Char → Prop} {first second text : List Char} {name : String}

theorem IsContent.append (content : IsContent legal first) (behind : IsContent legal second) :
    IsContent legal (first ++ second) := by
  induction content with
  | nil => exact behind
  | character allowed plain _ ih => exact .character allowed plain ih
  | reference known _ ih =>
      rw [List.append_assoc, List.cons_append]
      exact .reference known ih
  | element named inner _ _ ih =>
      rw [List.append_assoc]
      exact .element named inner ih

theorem IsElement.content (element : IsElement legal name text) : IsContent legal text := by
  obtain ⟨named, inner, content, rfl⟩ := element
  rw [← List.append_nil (_ ++ endTag name)]
  exact .element named content .nil

theorem isCharacter_of_isAlphanum {character : Char} (alphanum : character.isAlphanum) :
    isCharacter character := by
  unfold Char.isAlphanum Char.isAlpha Char.isUpper Char.isLower Char.isDigit at alphanum
  simp only [Bool.or_eq_true, Bool.and_eq_true, decide_eq_true_eq, UInt32.le_iff_toNat_le,
    ge_iff_le] at alphanum
  have code : character.toNat = character.val.toNat := rfl
  have bounds : 'A'.val.toNat = 65 ∧ 'Z'.val.toNat = 90 ∧ 'a'.val.toNat = 97 ∧
      'z'.val.toNat = 122 ∧ '0'.val.toNat = 48 ∧ '9'.val.toNat = 57 := by decide
  simp only [isCharacter, Bool.or_eq_true, Bool.and_eq_true, beq_iff_eq, decide_eq_true_eq]
  omega

theorem isCharacter_of_isName (named : isName name) :
    ∀ character ∈ name.toList, isCharacter character := by
  unfold isName at named
  split at named
  · contradiction
  · next first others letters =>
      rw [letters]
      simp only [Bool.and_eq_true, List.all_eq_true] at named
      obtain ⟨head, tail⟩ := named
      intro character member
      rcases List.mem_cons.mp member with rfl | later
      · exact isCharacter_of_isAlphanum (by simp [Char.isAlphanum, head])
      · exact isCharacter_of_isAlphanum (tail character later)

/-- Every character of an XML document is one that may stand in it. -/
theorem IsContent.isCharacter (content : IsContent (isCharacter ·) text) :
    ∀ character ∈ text, isCharacter character := by
  induction content with
  | nil => exact fun _ member => absurd member List.not_mem_nil
  | character allowed _ _ ih => exact List.forall_mem_cons.mpr ⟨allowed, ih⟩
  | @reference name rest known _ ih =>
      have letters : ∀ known ∈ predefined, IsText known := by decide
      simp only [List.cons_append, List.forall_mem_cons, List.forall_mem_append]
      exact ⟨by decide, letters name known, by decide, ih⟩
  | @element name inner rest named _ _ innerIH restIH =>
      have letters := isCharacter_of_isName named
      simp only [startTag, endTag, List.cons_append, List.forall_mem_cons, List.forall_mem_append,
        List.append_assoc]
      have nothing := List.forall_mem_nil fun character => Xml.isCharacter character = true
      exact ⟨by decide, letters, by decide, nothing, innerIH, by decide, by decide, letters,
        by decide, nothing, restIH⟩

end grammar

/-! ### Elements as they are written -/

theorem toList_escaped (text : String) :
    (escaped text).toList = text.toList.flatMap fun character => (escape character).toList := by
  rw [escaped, String.toList_join, List.flatMap_map]

theorem escape_cases (character : Char) :
    (isCharacter character ∧
        ∃ name ∈ predefined, (escape character).toList = '&' :: name.toList ++ [';']) ∨
      character ∉ ['&', '<', '>'] ∧ (escape character).toList = [character] := by
  by_cases special : character ∈ ['&', '<', '>', '\'', '"']
  · simp only [List.mem_cons, List.not_mem_nil, or_false] at special
    rcases special with rfl | rfl | rfl | rfl | rfl
    · exact .inl ⟨by decide, "amp", by decide, rfl⟩
    · exact .inl ⟨by decide, "lt", by decide, rfl⟩
    · exact .inl ⟨by decide, "gt", by decide, rfl⟩
    · exact .inl ⟨by decide, "apos", by decide, rfl⟩
    · exact .inl ⟨by decide, "quot", by decide, rfl⟩
  · simp only [List.mem_cons, List.not_mem_nil, or_false, not_or] at special
    obtain ⟨ampersand, less, greater, apostrophe, quote⟩ := special
    exact .inr (by simp [escape, ampersand, less, greater, apostrophe, quote])

theorem content_escape {legal : Char → Prop} {character : Char} {rest : List Char}
    (allowed : legal character) (behind : IsContent legal rest) :
    IsContent legal ((escape character).toList ++ rest) := by
  rcases escape_cases character with ⟨-, name, known, written⟩ | ⟨plain, written⟩
  · rw [written, List.append_assoc]
    exact .reference known behind
  · rw [written]
    exact .character allowed plain behind

theorem content_escaped {legal : Char → Prop} {text : String}
    (allowed : ∀ character ∈ text.toList, legal character) :
    IsContent legal (escaped text).toList := by
  rw [toList_escaped]
  generalize text.toList = characters at allowed ⊢
  induction characters with
  | nil => exact .nil
  | cons first others ih =>
      obtain ⟨head, tail⟩ := List.forall_mem_cons.mp allowed
      exact content_escape head (ih tail)

/-- Nothing that is left out of a document is hidden by references. -/
theorem isCharacter_of_escaped {text : String}
    (allowed : ∀ character ∈ (escaped text).toList, isCharacter character) :
    ∀ character ∈ text.toList, isCharacter character := by
  intro character member
  rcases escape_cases character with ⟨special, -⟩ | ⟨-, written⟩
  · exact special
  · apply allowed
    rw [toList_escaped]
    exact List.mem_flatMap.mpr ⟨character, member, by simp [written]⟩

variable {K : Type} [Scalar K]

theorem leafText_text (value : String) : leafText (.text value : XmlLeaf K) = value := rfl

mutual

/-- Every tag in an element satisfies a condition, and every text another one. -/
def Every (ofTag ofText : String → Prop) : Xml K → Prop
  | .leaf tag value => ofTag tag ∧ ofText (leafText value)
  | .node tag children => ofTag tag ∧ EveryChild ofTag ofText children

def EveryChild (ofTag ofText : String → Prop) : List (Xml K) → Prop
  | [] => True
  | child :: others => Every ofTag ofText child ∧ EveryChild ofTag ofText others

end

theorem everyChild_iff {ofTag ofText : String → Prop} {children : List (Xml K)} :
    EveryChild ofTag ofText children ↔ ∀ child ∈ children, Every ofTag ofText child := by
  induction children with
  | nil => simp [EveryChild]
  | cons child others ih => simp [EveryChild, ih]

theorem everyChild_append {ofTag ofText : String → Prop} {first second : List (Xml K)} :
    EveryChild ofTag ofText (first ++ second) ↔
      EveryChild ofTag ofText first ∧ EveryChild ofTag ofText second := by
  simp [everyChild_iff, or_imp, forall_and]

def laid (lines : List String) : List Char := lines.flatMap fun line => '\n' :: line.toList

theorem laid_append (first second : List String) : laid (first ++ second) = laid first ++ laid second :=
  List.flatMap_append

theorem toList_intercalate (line : String) (others : List String) :
    (String.intercalate "\n" (line :: others)).toList = line.toList ++ laid others := by
  rw [String.toList_intercalate]
  induction others generalizing line with
  | nil => simp [laid]
  | cons next others ih =>
      rw [List.map_cons, List.map_cons, List.intercalate_cons_cons, ← List.map_cons, ih]
      simp [laid]

theorem laid_lines (element : Xml K) : laid (lines 0 element) = '\n' :: element.render.toList := by
  cases element <;> rw [render, lines, toList_intercalate] <;> simp [laid]

theorem content_indentation {legal : Char → Prop} (space : legal ' ') (level : Nat)
    {rest : List Char} (behind : IsContent legal rest) :
    IsContent legal (List.replicate (2 * level) ' ' ++ rest) := by
  induction 2 * level with
  | zero => exact behind
  | succ count ih => exact .character space (by decide) ih

section layout

variable {legal : Char → Prop} (lineEnd : legal '\n') (space : legal ' ')

include lineEnd space

mutual

theorem element_lines (level : Nat) : ∀ element : Xml K,
    element.Every (isName ·) (fun text => ∀ character ∈ text.toList, legal character) →
    ∃ text, IsElement legal element.tag text ∧
      laid (lines level element) = '\n' :: List.replicate (2 * level) ' ' ++ text
  | .leaf tag value, ⟨named, allowed⟩ => by
      refine ⟨_, ⟨named, _, content_escaped allowed, rfl⟩, ?_⟩
      simp [laid, lines, indentation, openTag, closeTag, startTag, endTag, Xml.tag]
  | .node tag children, ⟨named, each⟩ => by
      have inner := content_childLines (level + 1) children each
      have behind : IsContent legal ('\n' :: List.replicate (2 * level) ' ') := by
        have blank := content_indentation space level .nil
        rw [List.append_nil] at blank
        exact .character lineEnd (by decide) blank
      refine ⟨_, ⟨named, _, inner.append behind, rfl⟩, ?_⟩
      simp [laid, lines, indentation, openTag, closeTag, startTag, endTag, Xml.tag]

theorem content_childLines (level : Nat) : ∀ children : List (Xml K),
    EveryChild (isName ·) (fun text => ∀ character ∈ text.toList, legal character) children →
    IsContent legal (laid (childLines level children))
  | [], _ => .nil
  | child :: others, ⟨first, rest⟩ => by
      obtain ⟨text, element, written⟩ := element_lines level child first
      have behind := content_childLines level others rest
      rw [childLines, laid_append, written]
      exact .append (.character lineEnd (by decide) (content_indentation space level element.content))
        behind

end

theorem element_render (element : Xml K)
    (each : element.Every (isName ·) fun text => ∀ character ∈ text.toList, legal character) :
    IsElement legal element.tag element.render.toList := by
  obtain ⟨text, isElement, written⟩ := element_lines lineEnd space 0 element each
  rw [laid_lines] at written
  rw [(List.cons.inj written).2]
  exact isElement

end layout

mutual

theorem everyText_of_lines (level : Nat) : ∀ element : Xml K,
    (∀ line ∈ lines level element, IsText line) → element.Every (fun _ => True) IsText
  | .leaf tag value, each => by
      refine ⟨trivial, isCharacter_of_escaped ?_⟩
      have line := each _ List.mem_cons_self
      intro character member
      exact line character (by simp [member])
  | .node tag children, each => by
      refine ⟨trivial, everyText_of_childLines (level + 1) children ?_⟩
      intro line member
      exact each line (List.mem_cons_of_mem _ (List.mem_append_left _ member))

theorem everyText_of_childLines (level : Nat) : ∀ children : List (Xml K),
    (∀ line ∈ childLines level children, IsText line) →
    EveryChild (fun _ => True) IsText children
  | [], _ => trivial
  | child :: others, each => by
      constructor
      · refine everyText_of_lines level child ?_
        intro line member
        exact each line (List.mem_append_left _ member)
      · refine everyText_of_childLines level others ?_
        intro line member
        exact each line (List.mem_append_right _ member)

end

theorem everyText_of_render (element : Xml K) (rendered : IsText element.render) :
    element.Every (fun _ => True) IsText := by
  have laidOut : ∀ character ∈ laid (lines 0 element), isCharacter character := by
    rw [laid_lines]
    exact List.forall_mem_cons.mpr ⟨by decide, rendered⟩
  refine everyText_of_lines 0 element ?_
  intro line member character within
  exact laidOut character (List.mem_flatMap.mpr ⟨line, member, List.mem_cons_of_mem _ within⟩)

/-! ### Texts -/

theorem isText_append {first second : String} :
    IsText (first ++ second) ↔ IsText first ∧ IsText second := by
  simp [IsText, or_imp, forall_and]

theorem isText_ofList {characters : List Char}
    (allowed : ∀ character ∈ characters, isCharacter character) :
    IsText (String.ofList characters) := by
  simpa [IsText] using allowed

theorem isCharacter_of_mem_toDigits {number : Nat} :
    ∀ digit ∈ Nat.toDigits 10 number, isCharacter digit := by
  intro digit member
  have isDigit := Nat.isDigit_of_mem_toDigits (by decide) (by decide) member
  exact isCharacter_of_isAlphanum (by simp [Char.isAlphanum, isDigit])

theorem isText_natural (number : Nat) : IsText (toString number) := by
  rw [Nat.toString_eq_ofList_toDigits]
  exact isText_ofList isCharacter_of_mem_toDigits

@[simp]
theorem isText_leafText_integer (value : Int) :
    IsText (leafText (.integer value : XmlLeaf K)) := by
  cases value with
  | ofNat number => exact isText_natural number
  | negSucc number =>
      have sign : IsText "-" := by decide
      exact isText_append.mpr ⟨sign, isText_natural (number + 1)⟩

@[simp]
theorem isText_leafText_boolean (value : Bool) :
    IsText (leafText (.boolean value : XmlLeaf K)) := by
  cases value with
  | false => exact (by decide : IsText "false")
  | true => exact (by decide : IsText "true")

theorem isText_positional (digits : List Char) (exponent : Int)
    (allowed : ∀ digit ∈ digits, isCharacter digit) :
    IsText (Number.Style.plain.positional digits exponent) := by
  have zeros (count : Nat) : ∀ digit ∈ List.replicate count '0', isCharacter digit := by
    intro digit member
    rw [List.eq_of_mem_replicate member]
    decide
  unfold Number.Style.positional
  split
  · have padded := isText_ofList (List.forall_mem_append.mpr ⟨allowed, zeros exponent.toNat⟩)
    exact isText_append.mpr ⟨padded, by decide⟩
  · have padded := List.forall_mem_append.mpr
      ⟨zeros ((-exponent).toNat + 1 - digits.length), allowed⟩
    have point : IsText "." := by decide
    refine isText_append.mpr ⟨isText_append.mpr ⟨isText_ofList ?_, point⟩, isText_ofList ?_⟩
    · exact fun digit member => padded digit (List.mem_of_mem_take member)
    · exact fun digit member => padded digit (List.mem_of_mem_drop member)

theorem isText_decimal (value : Number.Decimal) : IsText (Number.Style.plain.decimal value) := by
  have noExponent : Number.Style.plain.decimal value =
      Number.Style.plain.positional (Nat.toDigits 10 value.digits) value.exponent := by
    simp [Number.Style.decimal, Number.Style.plain]
  rw [noExponent]
  exact isText_positional _ _ isCharacter_of_mem_toDigits

@[simp]
theorem isText_leafText_number (value : Float) : IsText (leafText (.number value)) := by
  change IsText (Number.Style.plain.float value)
  unfold Number.Style.float
  split
  · refine isText_append.mpr ⟨?_, isText_decimal _⟩
    split <;> decide
  · split
    · exact (by decide : IsText "NaN")
    · split
      · exact (by decide : IsText "-inf")
      · exact (by decide : IsText "inf")

/-- A condition on texts that those of numbers and identifiers satisfy, which no file gives. -/
structure Admits (K : Type) [Scalar K] (ofText : String → Prop) : Prop where
  boolean : ∀ value, ofText (leafText (.boolean value : XmlLeaf K))
  integer : ∀ value, ofText (leafText (.integer value : XmlLeaf K))
  number : ∀ value : K, ofText (leafText (.number value))
  fontId : ∀ place, ofText (ResourceIds.fontIdAt place)
  colorId : ∀ place, ofText (ResourceIds.colorIdAt place)

theorem admits_isText : Admits Float IsText where
  boolean := isText_leafText_boolean
  integer := isText_leafText_integer
  number := isText_leafText_number
  fontId place := isText_append.mpr ⟨by decide, isText_natural (place + 1)⟩
  colorId place := isText_append.mpr ⟨by decide, isText_natural (place + 1)⟩

end Xml

open Xml

variable {K : Type} [Scalar K] {ofTag ofText : String → Prop}

namespace View

section lists

variable {α : Type} {tag : String} {encode : α → Xml K} (named : ofTag tag)

include named

theorem everyChild_elementNode {entries? : Option (List α)} :
    EveryChild ofTag ofText (elementNode tag encode entries?) ↔
      ∀ entry ∈ entries?.getD [], (encode entry).Every ofTag ofText := by
  cases entries? <;> simp [elementNode, Every, everyChild_iff, named]

theorem everyChild_listNode {entries : List α} :
    EveryChild ofTag ofText (listNode tag encode entries) ↔
      ∀ entry ∈ entries, (encode entry).Every ofTag ofText := by
  cases entries <;> simp [listNode, EveryChild, Every, everyChild_iff, named]

end lists

end View

section texts

variable (admitted : Admits K ofText) (document : Document K) (types : List ElementType)

include admitted

theorem View.every_characterEntry :
    (∀ entry ∈ (ofDocument document types).characters?.getD [],
        (∀ font ∈ entry.font?, ofText font.id) ∧ ofText entry.colorId ∧ ofText entry.text) ↔
      ∀ character ∈ (wanted types .characters document.characters).getD [],
        ofText character.text := by
  have entry (fonts : List Font) (colors : List Color) (character : Character K) :
      (∀ font ∈ (numberedCharacter fonts colors character).font?, ofText font.id) ∧
        ofText (numberedCharacter fonts colors character).colorId ∧
        ofText (numberedCharacter fonts colors character).text ↔ ofText character.text := by
    have reference :
        ∀ font ∈ (numberedCharacter fonts colors character).font?, ofText font.id := by
      unfold numberedCharacter
      split
      · rintro font ⟨⟩
        exact admitted.fontId _
      · rintro font ⟨⟩
    constructor
    · rintro ⟨-, -, text⟩
      exact text
    · intro text
      exact ⟨reference, admitted.colorId _, text⟩
  rw [characters?_ofDocument]
  cases wanted types .characters document.characters with
  | none => simp
  | some characters =>
      simp only [Option.map_some, Option.getD_some, List.forall_mem_map, entry]

theorem View.every_shapeEntry :
    ∀ entry ∈ (ofDocument document types).shapes?.getD [], ofText entry.colorId := by
  rw [shapes?_ofDocument]
  cases wanted types .shapes document.shapes with
  | none => simp
  | some shapes => exact List.forall_mem_map.mpr fun shape _ => admitted.colorId _

theorem View.every_fontEntry :
    (∀ entry ∈ (ofDocument document types).fonts, ofText entry.id ∧ ofText entry.font.name) ↔
      ∀ character ∈ (wanted types .characters document.characters).getD [],
        refersToFont character → ofText character.font.name := by
  have listed (font : Font) :
      font ∈ (ResourceIds.distinct (fontsOf (charactersOf document types))).toList ↔
        ∃ character ∈ (wanted types .characters document.characters).getD [],
          refersToFont character ∧ character.font = font := by
    rw [ResourceIds.mem_distinct]
    simp [fontsOf, charactersOf, and_assoc]
  simp only [fonts_ofDocument, List.forall_mem_map]
  constructor
  · intro each character member refers
    obtain ⟨place, found⟩ :=
      List.mem_iff_getElem?.mp ((listed character.font).mpr ⟨character, member, refers, rfl⟩)
    exact (each (character.font, place) (List.mem_zipIdx_iff_getElem?.mpr found)).2
  · rintro each ⟨font, place⟩ numbered
    have found := List.mem_of_getElem? (List.mem_zipIdx_iff_getElem?.mp numbered)
    obtain ⟨character, member, refers, rfl⟩ := (listed font).mp found
    exact ⟨admitted.fontId place, each character member refers⟩

theorem View.every_colorEntry :
    ∀ entry ∈ (ofDocument document types).colors, ofText entry.id := by
  simp only [colors_ofDocument, List.forall_mem_map]
  exact fun color _ => admitted.colorId color.2

end texts

section entries

variable (named : ∀ tag, isName tag → ofTag tag) (admitted : Admits K ofText)

include named admitted

theorem Position.every_toXml (position : Position K) : position.toXml.Every ofTag ofText := by
  simp (disch := decide) [Position.toXml, naturalLeaf, numberLeaf, Every, EveryChild, named,
    admitted.integer, admitted.number]

theorem CharacterEntry.every_toXml (entry : CharacterEntry K) :
    entry.toXml.Every ofTag ofText ↔
      (∀ font ∈ entry.font?, ofText font.id) ∧ ofText entry.colorId ∧ ofText entry.text := by
  have position := entry.position.every_toXml named admitted
  cases found : entry.font? <;>
    simp (disch := decide) [CharacterEntry.toXml, FontReference.toXml, colorReference, textLeaf,
      numberLeaf, leafText_text, Every, EveryChild, named, admitted.number, position, found]

theorem Position.every_figureToXml (position : Position K) :
    position.figureToXml.Every ofTag ofText := by
  have inner := position.every_toXml named admitted
  simp (disch := decide) [Position.figureToXml, Every, EveryChild, named, inner]

theorem ShapeEntry.every_toXml (entry : ShapeEntry K) :
    entry.toXml.Every ofTag ofText ↔ ofText entry.colorId := by
  have position := entry.position.every_toXml named admitted
  simp (disch := decide) [ShapeEntry.toXml, colorReference, textLeaf, leafText_text, Every,
    EveryChild, named, position]

theorem FontEntry.every_toXml (entry : FontEntry) :
    (entry.toXml (K := K)).Every ofTag ofText ↔ ofText entry.id ∧ ofText entry.font.name := by
  simp (disch := decide) [FontEntry.toXml, textLeaf, booleanLeaf, leafText_text, Every, EveryChild,
    named, admitted.boolean]

theorem ColorEntry.every_toXml (entry : ColorEntry) :
    (entry.toXml (K := K)).Every ofTag ofText ↔ ofText entry.id := by
  simp (disch := decide) [ColorEntry.toXml, textLeaf, naturalLeaf, leafText_text, Every, EveryChild,
    named, admitted.integer]

theorem PageEntry.every_toXml (entry : PageEntry K) : entry.toXml.Every ofTag ofText := by
  simp (disch := decide) [PageEntry.toXml, naturalLeaf, numberLeaf, Every, EveryChild, named,
    admitted.integer, admitted.number]

theorem View.every_toXml (view : View K) :
    view.toXml.Every ofTag ofText ↔
      (∀ entry ∈ view.characters?.getD [],
        (∀ font ∈ entry.font?, ofText font.id) ∧ ofText entry.colorId ∧ ofText entry.text) ∧
      (∀ entry ∈ view.shapes?.getD [], ofText entry.colorId) ∧
      (∀ entry ∈ view.fonts, ofText entry.id ∧ ofText entry.font.name) ∧
      ∀ entry ∈ view.colors, ofText entry.id := by
  have tag {name : String} (isName : isName name = true) : ofTag name := named name isName
  rw [View.toXml, Every, everyChild_append, everyChild_append, everyChild_append,
    everyChild_append, everyChild_append, everyChild_elementNode (tag (by decide)),
    everyChild_elementNode (tag (by decide)), everyChild_elementNode (tag (by decide)),
    everyChild_listNode (tag (by decide)), everyChild_listNode (tag (by decide)),
    everyChild_listNode (tag (by decide))]
  simp only [CharacterEntry.every_toXml named admitted, Position.every_figureToXml named admitted,
    ShapeEntry.every_toXml named admitted, FontEntry.every_toXml named admitted,
    ColorEntry.every_toXml named admitted, PageEntry.every_toXml named admitted]
  simp (disch := decide) [named, and_assoc]

/-- The texts that a document is written with are those of its characters and the names of the fonts
that these refer to, and others that no file gives. -/
theorem View.every_ofDocument (document : Document K) (types : List ElementType) :
    (ofDocument document types).toXml.Every ofTag ofText ↔
      ∀ character ∈ (wanted types .characters document.characters).getD [],
        ofText character.text ∧ (refersToFont character → ofText character.font.name) := by
  rw [View.every_toXml named admitted, every_characterEntry admitted, every_fontEntry admitted]
  have shapes := every_shapeEntry admitted document types
  have colors := every_colorEntry admitted document types
  constructor
  · rintro ⟨texts, -, names, -⟩ character member
    exact ⟨texts character member, names character member⟩
  · intro each
    exact ⟨fun character member => (each character member).1, shapes,
      fun character member => (each character member).2, colors⟩

end entries

/-- The tags of what is written of a document match. It is an XML document if, and only if, XML
allows every character of it, which depends on the texts of the characters that are wanted and on the
names of their fonts alone. -/
theorem View.xml_is_well_formed_iff_texts_are (document : Document Float)
    (types : List ElementType) :
    let written := OutputFormat.xml.write document types
    let texts := ∀ character ∈ (wanted types .characters document.characters).getD [],
      IsText character.text ∧ (refersToFont character → IsText character.font.name)
    IsElement (fun _ => True) "document" written.toList ∧
      (IsElement (isCharacter ·) "document" written.toList ↔ texts) ∧
      (IsText written ↔ texts) := by
  intro written texts
  have whole : Admits Float fun text => ∀ character ∈ text.toList, True := by
    constructor <;> exact fun _ _ _ => trivial
  have balanced : IsElement (fun _ => True) "document" written.toList := by
    refine element_render trivial trivial (ofDocument document types).toXml ?_
    exact (every_ofDocument (fun _ isName => isName) whole document types).mpr
      fun _ _ => ⟨fun _ _ => trivial, fun _ _ _ => trivial⟩
  have legal (each : texts) : IsElement (isCharacter ·) "document" written.toList := by
    refine element_render (by decide) (by decide) (ofDocument document types).toXml ?_
    exact (every_ofDocument (fun _ isName => isName) admits_isText document types).mpr each
  have only (isText : IsText written) : texts :=
    (every_ofDocument (fun _ _ => trivial) admits_isText document types).mp
      (everyText_of_render _ isText)
  have within (element : IsElement (isCharacter ·) "document" written.toList) : IsText written :=
    element.content.isCharacter
  exact ⟨balanced, ⟨only ∘ within, legal⟩, ⟨only, within ∘ legal⟩⟩

end PdfElements
