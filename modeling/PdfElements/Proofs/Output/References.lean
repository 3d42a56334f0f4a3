import Mathlib.Data.List.Basic
import PdfElements.Proofs.Output.Interning

/-! The references in what is written of a document. Fonts and colors are numbered as elements first
refer to them, so that an identifier stands for one font, or one color, and every one that is listed
is referred to. -/

set_option autoImplicit false

namespace PdfElements

namespace ResourceIds

/-! ### Tables of identifiers -/

/-- A table of identifiers, and what they stand for, suits references: identifiers, and what they
are to stand for. -/
structure Suits {α : Type} [BEq α] (idAt : Nat → String) (table references : List (String × α)) :
    Prop where
  numbered : table.map Prod.fst = (List.range table.length).map idAt
  distinct : (table.map Prod.snd).Nodup
  /-- What is listed is in the order of the first references to it. -/
  ordered : (table.map Prod.snd).Pairwise fun first second =>
    (references.map Prod.snd).idxOf first < (references.map Prod.snd).idxOf second
  listed : ∀ reference ∈ references, reference ∈ table
  needed : ∀ entry ∈ table, entry ∈ references
  shared : ∀ one ∈ references, ∀ other ∈ references, one.1 = other.1 ↔ one.2 = other.2
  /-- The references up to one determine its identifier. -/
  assigned : ∀ before reference after, references = before ++ reference :: after →
    reference.1 = idAt ((ResourceIds.distinct ((before ++ [reference]).map Prod.snd)).idxOf
      reference.2)

/-- Items with the identifiers of their places. -/
def tableOf {α : Type} (idAt : Nat → String) (items : List α) : List (String × α) :=
  items.zipIdx.map fun (item, place) => (idAt place, item)

theorem mem_tableOf {α : Type} {idAt : Nat → String} {items : List α} {id : String} {item : α} :
    (id, item) ∈ tableOf idAt items ↔ ∃ place, items[place]? = some item ∧ id = idAt place := by
  simp only [tableOf, List.mem_map, Prod.exists, List.mem_zipIdx_iff_getElem?, Prod.mk.injEq]
  constructor
  · rintro ⟨_, place, found, rfl, rfl⟩
    exact ⟨place, found, rfl⟩
  · rintro ⟨place, found, rfl⟩
    exact ⟨item, place, found, rfl, rfl⟩

/-- The items of references, numbered in the order of their first occurrences, suit them. -/
theorem suits_distinct {α : Type} [BEq α] [LawfulBEq α] {idAt : Nat → String}
    (injective : Function.Injective idAt) (items : List α) :
    Suits idAt (tableOf idAt (distinct items).toList)
      (items.map fun item => (idAt ((distinct items).idxOf item), item)) := by
  have entries : (tableOf idAt (distinct items).toList).map Prod.snd = (distinct items).toList := by
    simp [tableOf, Function.comp_def, List.zipIdx_map_fst]
  have own : (items.map fun item => (idAt ((distinct items).idxOf item), item)).map Prod.snd =
      items := by
    simp [Function.comp_def]
  constructor
  case numbered =>
    have places := List.zipIdx_map_snd 0 (distinct items).toList
    rw [← List.range_eq_range'] at places
    simp only [tableOf, List.map_map, List.length_map, List.length_zipIdx]
    rw [← places, List.map_map]
    rfl
  case distinct =>
    rw [entries]
    exact nodup_distinct items
  case ordered =>
    rw [entries, own]
    exact pairwise_distinct items
  case listed =>
    intro reference member
    obtain ⟨item, listed, rfl⟩ := List.mem_map.mp member
    exact mem_tableOf.mpr ⟨_, getElem_idxOf_distinct listed, rfl⟩
  case needed =>
    rintro ⟨id, item⟩ member
    obtain ⟨place, found, rfl⟩ := mem_tableOf.mp member
    obtain ⟨within, rfl⟩ := List.getElem?_eq_some_iff.mp found
    refine List.mem_map.mpr ⟨_, mem_distinct.mp (List.getElem_mem within), ?_⟩
    rw [← idxOf_toList, (nodup_distinct items).idxOf_getElem place within]
  case shared =>
    intro one first other second
    obtain ⟨item, listed, rfl⟩ := List.mem_map.mp first
    obtain ⟨otherItem, otherListed, rfl⟩ := List.mem_map.mp second
    constructor
    · intro same
      have places := injective same
      rw [← idxOf_toList, ← idxOf_toList] at places
      exact (List.idxOf_inj (mem_distinct.mpr listed)).mp places
    · rintro ⟨⟩
      rfl
  case assigned =>
    intro before reference after split
    have values := congrArg (List.map Prod.snd) split
    have member : reference ∈ before ++ reference :: after :=
      List.mem_append_right _ List.mem_cons_self
    rw [← split] at member
    obtain ⟨item, _, rfl⟩ := List.mem_map.mp member
    rw [own, List.append_cons, List.map_append] at values
    have listed : item ∈ (before ++ [(idAt ((distinct items).idxOf item), item)]).map Prod.snd := by
      simp
    have kept := idxOf_distinct_append listed (after.map Prod.snd)
    rw [← values] at kept
    exact congrArg idAt kept

theorem numeral_injective {number other : Nat} (same : toString number = toString other) :
    number = other := by
  have digits : Nat.toDigits 10 number = Nat.toDigits 10 other := by
    simpa only [Nat.toString_eq_repr, Nat.toList_repr] using congrArg String.toList same
  have values := congrArg (Nat.ofDigitChars 10 · 0) digits
  simpa using values

theorem fontIdAt_injective : Function.Injective fontIdAt := by
  intro place other same
  exact Nat.succ.inj (numeral_injective ((String.append_right_inj "font-").mp same))

theorem colorIdAt_injective : Function.Injective colorIdAt := by
  intro place other same
  exact Nat.succ.inj (numeral_injective ((String.append_right_inj "color-").mp same))

end ResourceIds

namespace View

open ResourceIds

variable {K : Type} [Scalar K] (document : Document K) (types : List ElementType)

def writtenCharacters : List (Character K × CharacterEntry K) :=
  ((wanted types .characters document.characters).getD []).zip
    ((ofDocument document types).characters?.getD [])

def writtenShapes : List (Shape K × ShapeEntry K) :=
  ((wanted types .shapes document.shapes).getD []).zip ((ofDocument document types).shapes?.getD [])

/-- The identifiers of fonts in what is written of characters, with the fonts of the characters. -/
def fontReferences : List (String × Font) :=
  (writtenCharacters document types).filterMap fun (character, entry) =>
    entry.font?.map fun reference => (reference.id, character.font)

/-- The identifiers of colors in what is written of characters and then of shapes, with their
colors. -/
def colorReferences : List (String × Color) :=
  (writtenCharacters document types).map (fun (character, entry) =>
      (entry.colorId, character.color)) ++
    (writtenShapes document types).map fun (shape, entry) => (entry.colorId, shape.color)

theorem writtenCharacters_eq : writtenCharacters document types =
    (charactersOf document types).map fun character =>
      (character, numberedCharacter (fontsOf (charactersOf document types))
        (colorsOf document types) character) := by
  rw [writtenCharacters, characters?_ofDocument, charactersOf]
  cases wanted types .characters document.characters with
  | none => rfl
  | some characters => exact List.map_prod_left_eq_zip.symm

theorem writtenShapes_eq : writtenShapes document types =
    (shapesOf document types).map fun shape =>
      (shape, numberedShape (colorsOf document types) shape) := by
  rw [writtenShapes, shapes?_ofDocument, shapesOf]
  cases wanted types .shapes document.shapes with
  | none => rfl
  | some shapes => exact List.map_prod_left_eq_zip.symm

theorem filterMap_numberedCharacter (fonts : List Font) (colors : List Color)
    (characters : List (Character K)) :
    (characters.filterMap fun character =>
        (numberedCharacter fonts colors character).font?.map fun reference =>
          (reference.id, character.font)) =
      (fontsOf characters).map fun font => (fontIdAt ((distinct fonts).idxOf font), font) := by
  induction characters with
  | nil => rfl
  | cons character others ih =>
      cases sized : refersToFont character <;> simpa [numberedCharacter, fontsOf, sized] using ih

theorem fontReferences_eq : fontReferences document types =
    (fontsOf (charactersOf document types)).map fun font =>
      (fontIdAt ((distinct (fontsOf (charactersOf document types))).idxOf font), font) := by
  rw [fontReferences, writtenCharacters_eq, List.filterMap_map]
  exact filterMap_numberedCharacter _ _ _

theorem colorReferences_eq : colorReferences document types =
    (colorsOf document types).map fun color =>
      (colorIdAt ((distinct (colorsOf document types)).idxOf color), color) := by
  rw [colorReferences, writtenCharacters_eq, writtenShapes_eq]
  simp [numberedCharacter, numberedShape, colorsOf, Function.comp_def]

theorem fonts_eq : (ofDocument document types).fonts.map (fun entry => (entry.id, entry.font)) =
    tableOf fontIdAt (distinct (fontsOf (charactersOf document types))).toList := by
  simp [fonts_ofDocument, tableOf, Function.comp_def]

theorem colors_eq :
    (ofDocument document types).colors.map (fun entry => (entry.id, entry.color)) =
      tableOf colorIdAt (distinct (colorsOf document types)).toList := by
  simp [colors_ofDocument, tableOf, Function.comp_def]

/-- The fonts and colors that are written are those that the written elements have, each character
and each shape refers to its own ones, and a character refers to its font if that has a size. -/
theorem references_suit_elements (document : Document K) (types : List ElementType) :
    let view := ofDocument document types
    let characters := (wanted types .characters document.characters).getD []
    let shapes := (wanted types .shapes document.shapes).getD []
    Suits fontIdAt (view.fonts.map fun entry => (entry.id, entry.font))
        (fontReferences document types) ∧
      Suits colorIdAt (view.colors.map fun entry => (entry.id, entry.color))
        (colorReferences document types) ∧
      (fontReferences document types).map Prod.snd =
        (characters.filter refersToFont).map Character.font ∧
      (colorReferences document types).map Prod.snd =
        characters.map Character.color ++ shapes.map Shape.color ∧
      view.characters?.map List.length =
        (wanted types .characters document.characters).map List.length ∧
      view.shapes?.map List.length = (wanted types .shapes document.shapes).map List.length := by
  intro view characters shapes
  refine ⟨?_, ?_, ?_, ?_, ?_, ?_⟩
  · rw [fonts_eq, fontReferences_eq]
    exact suits_distinct fontIdAt_injective _
  · rw [colors_eq, colorReferences_eq]
    exact suits_distinct colorIdAt_injective _
  · simp [fontReferences_eq, Function.comp_def, characters, fontsOf, charactersOf]
  · simp [colorReferences_eq, Function.comp_def, characters, shapes, colorsOf, charactersOf,
      shapesOf]
  · simp [view, characters?_ofDocument, Function.comp_def]
  · simp [view, shapes?_ofDocument, Function.comp_def]

end View

end PdfElements
