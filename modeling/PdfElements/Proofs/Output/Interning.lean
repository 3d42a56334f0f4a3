import Mathlib.Data.List.Basic
import Mathlib.Data.List.Induction
import PdfElements.Output.View

/-! The numbers that fonts and colors are given while elements are written. The map of an interner
and its order are inverse to each other, and what is written is as if all references had been
known, and numbered in the order of their first occurrences, before the first one was written. -/

set_option autoImplicit false

namespace PdfElements

namespace ResourceIds

section distinct

variable {α : Type} [BEq α]

def insert (items : Array α) (item : α) : Array α :=
  if items.contains item then items else items.push item

def distinct (items : List α) : Array α := items.foldl insert #[]

theorem distinct_concat (items : List α) (item : α) :
    distinct (items ++ [item]) = insert (distinct items) item := by
  simp [distinct]

theorem idxOf_toList (items : Array α) (item : α) : items.toList.idxOf item = items.idxOf item := by
  cases items
  rw [List.idxOf_toArray]

variable [LawfulBEq α] {items : List α} {item : α}

theorem toList_insert (items : Array α) (item : α) :
    (insert items item).toList = if item ∈ items then items.toList else items.toList ++ [item] := by
  by_cases listed : item ∈ items <;> simp [insert, listed]

theorem mem_insert {items : Array α} {other : α} :
    other ∈ insert items item ↔ other ∈ items ∨ other = item := by
  unfold insert
  split
  · next listed =>
      constructor
      · exact .inl
      · rintro (member | rfl)
        · exact member
        · exact Array.contains_iff_mem.mp listed
  · exact Array.mem_push

theorem mem_distinct : item ∈ (distinct items).toList ↔ item ∈ items := by
  rw [Array.mem_toList_iff]
  induction items using List.reverseRecOn with
  | nil => simp [distinct]
  | append_singleton items last ih => simp [distinct_concat, mem_insert, ih]

theorem pairwise_distinct (items : List α) :
    (distinct items).toList.Pairwise fun first second =>
      items.idxOf first < items.idxOf second := by
  induction items using List.reverseRecOn with
  | nil => exact .nil
  | append_singleton items last ih =>
      have before {item : α} (listed : item ∈ (distinct items).toList) :
          (items ++ [last]).idxOf item = items.idxOf item :=
        List.idxOf_append_of_mem (mem_distinct.mp listed)
      have kept : (distinct items).toList.Pairwise fun first second =>
          (items ++ [last]).idxOf first < (items ++ [last]).idxOf second := by
        refine ih.imp_of_mem ?_
        intro first second firstListed secondListed ordered
        rwa [before firstListed, before secondListed]
      rw [distinct_concat, toList_insert]
      split
      · exact kept
      · next new =>
          rw [← Array.mem_toList_iff, mem_distinct] at new
          refine List.pairwise_append.mpr ⟨kept, List.pairwise_singleton _ _, ?_⟩
          intro first listed second same
          rw [List.mem_singleton.mp same, before listed, List.idxOf_append_of_notMem new]
          have within := List.idxOf_lt_length_of_mem (mem_distinct.mp listed)
          omega

theorem nodup_distinct (items : List α) : (distinct items).toList.Nodup := by
  refine (pairwise_distinct items).imp ?_
  rintro first _ ordered rfl
  exact Nat.lt_irrefl _ ordered

theorem getElem_idxOf_distinct (listed : item ∈ items) :
    (distinct items).toList[(distinct items).idxOf item]? = some item := by
  rw [← idxOf_toList]
  exact List.getElem?_idxOf (mem_distinct.mpr listed)

theorem idxOf_distinct_append (listed : item ∈ items) (more : List α) :
    (distinct (items ++ more)).idxOf item = (distinct items).idxOf item := by
  induction more using List.reverseRecOn with
  | nil => rw [List.append_nil]
  | append_singleton more last ih =>
      have present : item ∈ (distinct (items ++ more)).toList :=
        mem_distinct.mpr (List.mem_append_left more listed)
      rw [← List.append_assoc, distinct_concat, ← ih, ← idxOf_toList, toList_insert]
      split
      · exact idxOf_toList _ _
      · rw [List.idxOf_append_of_mem present, idxOf_toList]

end distinct

end ResourceIds

namespace Interner

open ResourceIds (distinct)

variable {α : Type} [BEq α] {interner : Interner α} {item : α} {items : List α}

/-- The map from items to places and the order of the items are inverse to each other. -/
def Consistent (interner : Interner α) : Prop :=
  ∀ item place, interner.places.lookup item = some place ↔ interner.order[place]? = some item

/-- The interner holds the items that came up, in the order in which they first did. -/
structure Numbers (interner : Interner α) (items : List α) : Prop where
  consistent : interner.Consistent
  order : interner.order = distinct items

theorem consistent_empty : Consistent ({} : Interner α) := by
  intro item place
  simp

theorem Consistent.mem_order (consistent : interner.Consistent) :
    item ∈ interner.order ↔ ∃ place, interner.places.lookup item = some place := by
  rw [Array.mem_iff_getElem?]
  exact exists_congr fun place => (consistent item place).symm

theorem numbers_empty : Numbers ({} : Interner α) [] := ⟨consistent_empty, rfl⟩

variable [LawfulBEq α]

theorem Consistent.eq_idxOf (consistent : interner.Consistent) {place : Nat}
    (placed : interner.places.lookup item = some place) : place = interner.order.idxOf item := by
  have listed : item ∈ interner.order.toList :=
    Array.mem_toList_iff.mpr (consistent.mem_order.mpr ⟨place, placed⟩)
  have found : interner.order[interner.order.idxOf item]? = some item := by
    rw [← ResourceIds.idxOf_toList, ← Array.getElem?_toList]
    exact List.getElem?_idxOf listed
  have looked := (consistent item _).mpr found
  exact Option.some.inj (placed.symm.trans looked)

/-- An item that has a place keeps it, and another one is given the place behind all others. -/
theorem Consistent.intern (consistent : interner.Consistent) (item : α) :
    (interner.intern item).2.Consistent ∧
      (interner.intern item).2.order = ResourceIds.insert interner.order item ∧
      (interner.intern item).2.places.lookup item = some (interner.intern item).1 := by
  cases placed : interner.places.lookup item with
  | some place =>
      have found := (consistent item place).mp placed
      have within : place ≠ interner.order.size := by
        have := (Array.getElem?_eq_some_iff.mp found).1
        omega
      have listed : interner.order.contains item := by
        rw [Array.contains_iff_mem, consistent.mem_order]
        exact ⟨place, placed⟩
      have same : interner.intern item = (place, interner) := by
        simp [Interner.intern, placed, within]
      rw [same, ResourceIds.insert, if_pos listed]
      exact ⟨consistent, rfl, placed⟩
  | none =>
      have new : ¬interner.order.contains item := by
        rw [Array.contains_iff_mem, consistent.mem_order, placed]
        simp
      have pushed : interner.intern item = (interner.order.size,
          ⟨(item, interner.order.size) :: interner.places, interner.order.push item⟩) := by
        simp [Interner.intern, placed]
      rw [pushed, ResourceIds.insert, if_neg new]
      refine ⟨?_, rfl, by simp⟩
      intro other place
      by_cases same : other = item
      · -- The next place is the only one at which a new item stands.
        subst same
        have absent := (consistent other place).not.mp (by simp [placed])
        grind
      · have kept := consistent other place
        have apart : (other == item) = false := by simpa using same
        grind

theorem Numbers.intern (numbers : interner.Numbers items) (item : α) :
    (interner.intern item).2.Numbers (items ++ [item]) := by
  obtain ⟨consistent, order, _⟩ := numbers.consistent.intern item
  exact ⟨consistent, by rw [order, numbers.order, ResourceIds.distinct_concat]⟩

/-- The place that an item is given is its place among all the items, those that are to come
included. -/
theorem Numbers.place_eq (numbers : interner.Numbers items) (item : α) (more : List α) :
    (interner.intern item).1 = (distinct (items ++ item :: more)).idxOf item := by
  obtain ⟨consistent, _, placed⟩ := numbers.consistent.intern item
  have listed : item ∈ items ++ [item] := List.mem_concat_self
  rw [consistent.eq_idxOf placed, (numbers.intern item).order, List.append_cons items item more]
  exact (ResourceIds.idxOf_distinct_append listed more).symm

end Interner

structure ResourceIds.Numbers (ids : ResourceIds) (fonts : List Font) (colors : List Color) :
    Prop where
  fonts : ids.fonts.Numbers fonts
  colors : ids.colors.Numbers colors

namespace View

open ResourceIds (distinct fontIdAt colorIdAt)

variable {K : Type} [Scalar K] {ids : ResourceIds} {fonts : List Font} {colors : List Color}

/-- What is written of a character if the fonts and colors are referred to in the given order. -/
def numberedCharacter (fonts : List Font) (colors : List Color) (character : Character K) :
    CharacterEntry K where
  position := ⟨character.page, character.rect⟩
  font? :=
    if refersToFont character then
      some ⟨fontIdAt ((distinct fonts).idxOf character.font), character.size⟩
    else
      none
  colorId := colorIdAt ((distinct colors).idxOf character.color)
  text := character.text

def numberedShape (colors : List Color) (shape : Shape K) : ShapeEntry K :=
  ⟨⟨shape.page, shape.rect⟩, colorIdAt ((distinct colors).idxOf shape.color)⟩

def fontsOf (characters : List (Character K)) : List Font :=
  (characters.filter refersToFont).map Character.font

theorem characterEntry_run (numbers : ids.Numbers fonts colors) (character : Character K)
    (moreFonts : List Font) (moreColors : List Color) :
    (characterEntry character ids).1 = numberedCharacter (fonts ++ fontsOf [character] ++ moreFonts)
        (colors ++ character.color :: moreColors) character ∧
      (characterEntry character ids).2.Numbers (fonts ++ fontsOf [character])
        (colors ++ [character.color]) := by
  have color := numbers.colors.place_eq character.color moreColors
  cases sized : refersToFont character with
  | false =>
      have none : fontsOf [character] = [] := by simp [fontsOf, sized]
      have run : characterEntry character ids =
          (⟨⟨character.page, character.rect⟩, .none,
              colorIdAt (ids.colors.intern character.color).1, character.text⟩,
            { ids with colors := (ids.colors.intern character.color).2 }) := by
        simp only [characterEntry, sized]
        rfl
      rw [run, none, List.append_nil]
      refine ⟨?_, numbers.fonts, numbers.colors.intern character.color⟩
      simp [numberedCharacter, sized, color]
  | true =>
      have one : fontsOf [character] = [character.font] := by simp [fontsOf, sized]
      have font := numbers.fonts.place_eq character.font moreFonts
      have run : characterEntry character ids =
          (⟨⟨character.page, character.rect⟩,
              some ⟨fontIdAt (ids.fonts.intern character.font).1, character.size⟩,
              colorIdAt (ids.colors.intern character.color).1, character.text⟩,
            ⟨(ids.fonts.intern character.font).2, (ids.colors.intern character.color).2⟩) := by
        simp only [characterEntry, sized]
        rfl
      rw [run, one, ← List.append_cons]
      refine ⟨?_, numbers.fonts.intern character.font, numbers.colors.intern character.color⟩
      simp [numberedCharacter, sized, color, font]

omit [Scalar K] in
theorem shapeEntry_run (numbers : ids.Numbers fonts colors) (shape : Shape K)
    (moreColors : List Color) :
    (shapeEntry shape ids).1 = numberedShape (colors ++ shape.color :: moreColors) shape ∧
      (shapeEntry shape ids).2.Numbers fonts (colors ++ [shape.color]) := by
  have color := numbers.colors.place_eq shape.color moreColors
  refine ⟨?_, numbers.fonts, numbers.colors.intern shape.color⟩
  rw [numberedShape, ← color]
  rfl

/-- Characters are written as if all references, those before them and those to come included, had
been numbered beforehand. -/
theorem characterEntries_run (numbers : ids.Numbers fonts colors) (characters : List (Character K))
    (moreColors : List Color) :
    (characters.mapM characterEntry ids).1 =
        characters.map (numberedCharacter (fonts ++ fontsOf characters)
          (colors ++ characters.map Character.color ++ moreColors)) ∧
      (characters.mapM characterEntry ids).2.Numbers (fonts ++ fontsOf characters)
        (colors ++ characters.map Character.color) := by
  induction characters generalizing ids fonts colors with
  | nil =>
      have both : ids.Numbers (fonts ++ []) (colors ++ []) := by simpa using numbers
      exact ⟨rfl, both⟩
  | cons character others ih =>
      have split : fontsOf (character :: others) = fontsOf [character] ++ fontsOf others := by
        rw [fontsOf, ← List.singleton_append, List.filter_append, List.map_append]
        rfl
      obtain ⟨entry, one⟩ := characterEntry_run numbers character (fontsOf others)
        (others.map Character.color ++ moreColors)
      obtain ⟨entries, all⟩ := ih one
      have run : (character :: others).mapM characterEntry ids =
          ((characterEntry character ids).1 :: (others.mapM characterEntry
              (characterEntry character ids).2).1,
            (others.mapM characterEntry (characterEntry character ids).2).2) := by
        rw [List.mapM_cons]
        rfl
      rw [run, split]
      simp only [List.map_cons, List.append_assoc, List.cons_append, List.nil_append] at *
      exact ⟨by rw [entry, entries], all⟩

omit [Scalar K] in
theorem shapeEntries_run (numbers : ids.Numbers fonts colors) (shapes : List (Shape K)) :
    (shapes.mapM shapeEntry ids).1 =
        shapes.map (numberedShape (colors ++ shapes.map Shape.color)) ∧
      (shapes.mapM shapeEntry ids).2.Numbers fonts (colors ++ shapes.map Shape.color) := by
  induction shapes generalizing ids colors with
  | nil =>
      have both : ids.Numbers fonts (colors ++ []) := by simpa using numbers
      exact ⟨rfl, both⟩
  | cons shape others ih =>
      obtain ⟨entry, one⟩ := shapeEntry_run numbers shape (others.map Shape.color)
      obtain ⟨entries, all⟩ := ih one
      have run : (shape :: others).mapM shapeEntry ids =
          ((shapeEntry shape ids).1 :: (others.mapM shapeEntry (shapeEntry shape ids).2).1,
            (others.mapM shapeEntry (shapeEntry shape ids).2).2) := by
        rw [List.mapM_cons]
        rfl
      rw [run]
      simp only [List.map_cons, List.append_assoc, List.cons_append, List.nil_append] at *
      exact ⟨by rw [entry, entries], all⟩

variable (document : Document K) (types : List ElementType)

def charactersOf : List (Character K) := (wanted types .characters document.characters).getD []

def shapesOf : List (Shape K) := (wanted types .shapes document.shapes).getD []

/-- The colors that a document refers to, with their repetitions. -/
def colorsOf : List Color :=
  (charactersOf document types).map Character.color ++ (shapesOf document types).map Shape.color

theorem mapM_run {α β : Type} {entry : α → StateM ResourceIds β} {items? : Option (List α)}
    {items : List α} {ids : ResourceIds} {numbered : α → β}
    (run : (items.mapM entry ids).1 = items.map numbered) (same : items?.getD [] = items) :
    items?.mapM (List.mapM entry) ids =
      (items?.map (List.map numbered), (items.mapM entry ids).2) := by
  subst same
  cases items? with
  | none => rfl
  | some items => exact Prod.ext (congrArg some run) rfl

/-- What is written is numbered as if all references had been known before. -/
theorem referringEntries_run :
    (referringEntries document types {}).1 =
        ((wanted types .characters document.characters).map (List.map (numberedCharacter
            (fontsOf (charactersOf document types)) (colorsOf document types))),
          (wanted types .shapes document.shapes).map (List.map
            (numberedShape (colorsOf document types)))) ∧
      (referringEntries document types {}).2.Numbers (fontsOf (charactersOf document types))
        (colorsOf document types) := by
  have start : ({} : ResourceIds).Numbers [] [] := ⟨Interner.numbers_empty, Interner.numbers_empty⟩
  obtain ⟨characters, between⟩ := characterEntries_run start (charactersOf document types)
    ((shapesOf document types).map Shape.color)
  obtain ⟨shapes, behind⟩ := shapeEntries_run between (shapesOf document types)
  have run : referringEntries document types {} =
      (let (characters?, ids) :=
        (wanted types .characters document.characters).mapM (List.mapM characterEntry)
          ({} : ResourceIds)
      let (shapes?, ids) := (wanted types .shapes document.shapes).mapM (List.mapM shapeEntry) ids
      ((characters?, shapes?), ids)) := rfl
  rw [mapM_run characters rfl] at run
  dsimp only at run
  rw [mapM_run shapes rfl] at run
  rw [run]
  exact ⟨rfl, behind⟩

theorem characters?_ofDocument : (ofDocument document types).characters? =
    (wanted types .characters document.characters).map (List.map (numberedCharacter
      (fontsOf (charactersOf document types)) (colorsOf document types))) :=
  congrArg Prod.fst (referringEntries_run document types).1

theorem shapes?_ofDocument : (ofDocument document types).shapes? =
    (wanted types .shapes document.shapes).map (List.map
      (numberedShape (colorsOf document types))) :=
  congrArg Prod.snd (referringEntries_run document types).1

theorem fonts_ofDocument : (ofDocument document types).fonts =
    (distinct (fontsOf (charactersOf document types))).toList.zipIdx.map fun (font, place) =>
      ⟨fontIdAt place, font⟩ := by
  rw [← (referringEntries_run document types).2.fonts.order]
  rfl

theorem colors_ofDocument : (ofDocument document types).colors =
    (distinct (colorsOf document types)).toList.zipIdx.map fun (color, place) =>
      ⟨colorIdAt place, color⟩ := by
  rw [← (referringEntries_run document types).2.colors.order]
  rfl

end View

end PdfElements
