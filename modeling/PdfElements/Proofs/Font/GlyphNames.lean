import PdfElements.Proofs.Font.Spelling

/-! Names of glyphs with several components. A name stands for the texts of its components, one
behind another, and a suffix behind a point says nothing. The names are Unicode text whose slices
are given by bytes, so each slice is shown to begin and end between characters. -/

set_option autoImplicit false

namespace PdfElements.GlyphName

/-- A name without its suffix. -/
def base (name : String) : List Char := name.toList.takeWhile (· != '.')

def components (name : String) : List String := ((base name).splitOn '_').map String.ofList

def IsPlain (part : String) : Prop := '.' ∉ part.toList ∧ '_' ∉ part.toList

instance (part : String) : Decidable (IsPlain part) := inferInstanceAs (Decidable (_ ∧ _))

/-- Between two byte offsets, neither inside a character, a text has this part. -/
def Slices (text : String) (start stop : Nat) (part : String) : Prop :=
  ∃ before behind, text = before ++ part ++ behind ∧ before.utf8ByteSize = start ∧
    (before ++ part).utf8ByteSize = stop

/-! ### Components -/

section components

variable {name part : String} {parts : List String}

theorem split_eq_splitOn (separator : Char) (characters : List Char) :
    split separator characters = characters.splitOn separator := by
  induction characters with
  | nil => rfl
  | cons character rest ih =>
      rw [split, ih, List.splitOn_cons_eq_if_modifyHead]
      by_cases separates : character = separator
      · simp [separates]
      · obtain ⟨first, others, found⟩ :=
          List.exists_cons_of_ne_nil (List.splitOn_ne_nil separator rest)
        simp [separates, found]

theorem splitOn_pieces (separator : Char) (characters : List Char) :
    ∀ piece ∈ characters.splitOn separator, piece.Sublist characters ∧ separator ∉ piece := by
  induction characters with
  | nil => simp
  | cons character rest ih =>
      rw [List.splitOn_cons_eq_if_modifyHead]
      by_cases separates : character = separator
      · subst separates
        simp only [beq_self_eq_true, if_true, List.forall_mem_cons]
        refine ⟨⟨List.nil_sublist _, List.not_mem_nil⟩, ?_⟩
        intro piece member
        exact ⟨(ih piece member).1.cons _, (ih piece member).2⟩
      · obtain ⟨first, others, found⟩ :=
          List.exists_cons_of_ne_nil (List.splitOn_ne_nil separator rest)
        rw [found, List.forall_mem_cons] at ih
        rw [found, if_neg (by simpa using separates), List.modifyHead_cons, List.forall_mem_cons]
        obtain ⟨⟨inside, absent⟩, tail⟩ := ih
        refine ⟨⟨inside.cons_cons _, ?_⟩, ?_⟩
        · rw [List.mem_cons, not_or]
          exact ⟨Ne.symm separates, absent⟩
        · intro piece member
          exact ⟨(tail piece member).1.cons _, (tail piece member).2⟩

theorem no_point_base (name : String) : '.' ∉ base name := by
  intro member
  simpa using List.mem_takeWhile_imp member

theorem base_of_no_point (absent : '.' ∉ name.toList) : base name = name.toList := by
  refine List.takeWhile_eq_self_iff.mpr ?_
  rintro character member
  rw [bne_iff_ne]
  rintro rfl
  exact absent member

theorem base_suffix (absent : '.' ∉ name.toList) (suffix : String) :
    base (name ++ "." ++ suffix) = name.toList := by
  have whole := base_of_no_point absent
  rw [base, List.takeWhile_eq_self_iff] at whole
  rw [base, String.toList_append, String.toList_append, List.append_assoc,
    List.takeWhile_append_of_pos whole]
  simp

theorem isPlain_of_mem_components (member : part ∈ components name) : IsPlain part := by
  obtain ⟨piece, found, rfl⟩ := List.mem_map.mp member
  obtain ⟨inside, absent⟩ := splitOn_pieces _ _ _ found
  rw [IsPlain, String.toList_ofList]
  exact ⟨fun point => no_point_base name (inside.subset point), absent⟩

/-- Components of a joined name are shorter, so calls on them come to an end. -/
theorem length_of_mem_components (joined : '_' ∈ base name) (member : part ∈ components name) :
    part.length < name.length := by
  obtain ⟨piece, found, rfl⟩ := List.mem_map.mp member
  obtain ⟨inside, absent⟩ := splitOn_pieces _ _ _ found
  have shorter : piece.length < (base name).length := by
    by_contra long
    rw [inside.eq_of_length_le (not_lt.mp long)] at absent
    exact absent joined
  have within : (base name).length ≤ name.toList.length := (List.takeWhile_sublist _).length_le
  simp only [String.length_ofList, String.length_toList] at *
  omega

theorem components_of_joined (present : parts ≠ []) (plain : ∀ part ∈ parts, IsPlain part)
    (joined : base name = ("_".intercalate parts).toList) : components name = parts := by
  have apart : ∀ piece ∈ parts.map String.toList, '_' ∉ piece := by
    rw [List.forall_mem_map]
    exact fun part member => (plain part member).2
  rw [components, joined, String.toList_intercalate]
  change ((['_'].intercalate (parts.map String.toList)).splitOn '_').map String.ofList = parts
  rw [List.splitOn_intercalate '_' apart (by simpa using present), List.map_map]
  simp [Function.comp_def]

theorem mem_intercalate {character : Char} {separator : List Char} {pieces : List (List Char)}
    (member : character ∈ separator.intercalate pieces) :
    character ∈ separator ∨ ∃ piece ∈ pieces, character ∈ piece := by
  induction pieces with
  | nil => simp at member
  | cons piece pieces ih =>
      by_cases last : pieces = []
      · subst last
        exact .inr ⟨piece, List.mem_cons_self, by simpa using member⟩
      · rw [List.intercalate_cons_of_ne_nil last, List.mem_append, List.mem_append] at member
        rcases member with (member | member) | member
        · exact .inr ⟨piece, List.mem_cons_self, member⟩
        · exact .inl member
        · rcases ih member with separates | ⟨other, found, inside⟩
          · exact .inl separates
          · exact .inr ⟨other, List.mem_cons_of_mem _ found, inside⟩

theorem no_point_intercalate (plain : ∀ part ∈ parts, IsPlain part) :
    '.' ∉ ("_".intercalate parts).toList := by
  rw [String.toList_intercalate]
  intro member
  rcases mem_intercalate member with separates | ⟨piece, found, inside⟩
  · simp at separates
  · obtain ⟨part, among, rfl⟩ := List.mem_map.mp found
    exact (plain part among).1 inside

end components

/-! ### Texts -/

section texts

variable {name part : String} {parts : List String}

theorem text_of_plain (plain : IsPlain part) :
    text? part = (componentText? part.toList).map String.ofList := by
  rw [text?, ← base, base_of_no_point plain.1, split_of_not_mem plain.2]
  cases given : componentText? part.toList <;> simp [given]

theorem text_empty : text? "" = none := rfl

theorem mapM_text (plain : ∀ part ∈ parts, IsPlain part) :
    parts.mapM text? =
      ((parts.map String.toList).mapM componentText?).map (List.map String.ofList) := by
  induction parts with
  | nil => rfl
  | cons part parts ih =>
      rw [List.forall_mem_cons] at plain
      rw [List.map_cons, List.mapM_cons, List.mapM_cons, text_of_plain plain.1, ih plain.2]
      cases componentText? part.toList with
      | none => rfl
      | some text => cases (parts.map String.toList).mapM componentText? <;> rfl

theorem join_map_ofList (texts : List (List Char)) :
    String.join (texts.map String.ofList) = String.ofList texts.flatten := by
  rw [← String.toList_inj, String.toList_join, String.toList_ofList, List.flatMap_map]
  simp [List.flatMap_def]

theorem text_eq (name : String) : text? name = ((components name).mapM text?).map String.join := by
  have pieces : (components name).map String.toList = split '_' (base name) := by
    rw [components, List.map_map, split_eq_splitOn]
    simp [Function.comp_def]
  rw [mapM_text fun part member => isPlain_of_mem_components member, pieces, text?, ← base]
  cases (split '_' (base name)).mapM componentText? with
  | none => rfl
  | some texts => exact congrArg some (join_map_ofList texts).symm

theorem mapM_text_eq_none_iff :
    parts.mapM text? = none ↔ ∃ part ∈ parts, text? part = none := by
  induction parts with
  | nil => simp
  | cons part parts ih =>
      rw [List.mapM_cons]
      cases found : text? part with
      | none => simp [found]
      | some text =>
          cases others : parts.mapM text? <;> simp_all

theorem text_of_single (single : '_' ∉ base name) :
    text? name = (componentText? (base name)).map String.ofList := by
  rw [text?, ← base, split_of_not_mem single]
  cases given : componentText? (base name) <;> simp [given]

end texts

/-! ### Slices -/

section slices

variable {digits : List Char}

theorem utf8Size_of_isHexDigit {digit : Char} (hexadecimal : isHexDigit digit = true) :
    digit.utf8Size = 1 := by
  have small : digit.val ≤ 127 := by
    simp only [isHexDigit, Char.isDigit, Bool.or_eq_true, Bool.and_eq_true, decide_eq_true_eq]
      at hexadecimal
    rcases hexadecimal with (⟨_, last⟩ | ⟨_, last⟩) | ⟨_, last⟩
    · exact UInt32.le_trans last (by decide)
    · exact UInt32.le_trans last (by decide)
    · exact UInt32.le_trans last (by decide)
  exact if_pos small

theorem utf8ByteSize_of_digits (hexadecimal : ∀ digit ∈ digits, isHexDigit digit = true) :
    (String.ofList digits).utf8ByteSize = digits.length := by
  induction digits with
  | nil => rfl
  | cons digit digits ih =>
      rw [List.forall_mem_cons] at hexadecimal
      rw [String.ofList_cons, String.utf8ByteSize_append, String.utf8ByteSize_singleton,
        utf8Size_of_isHexDigit hexadecimal.1, ih hexadecimal.2, List.length_cons, Nat.add_comm]

theorem slices_of_digits (hexadecimal : ∀ digit ∈ digits, isHexDigit digit = true)
    {start count : Nat} (within : start + count ≤ digits.length) :
    Slices (String.ofList digits) start (start + count)
      (String.ofList ((digits.drop start).take count)) := by
  have size {part : List Char} (inside : part.Sublist digits) :
      (String.ofList part).utf8ByteSize = part.length :=
    utf8ByteSize_of_digits fun digit member => hexadecimal digit (inside.subset member)
  have before := size (List.take_sublist start digits)
  have middle := size ((List.take_sublist count _).trans (List.drop_sublist start digits))
  refine ⟨.ofList (digits.take start), .ofList ((digits.drop start).drop count), ?_, ?_, ?_⟩
  · rw [← String.ofList_append, ← String.ofList_append, List.append_assoc,
      List.take_append_drop, List.take_append_drop]
  · rw [before, List.length_take]
    omega
  · rw [String.utf8ByteSize_append, before, middle]
    simp only [List.length_take, List.length_drop]
    omega

theorem length_units (digits : List Char) : (units digits).length = digits.length / 4 := by
  fun_induction units digits with
  | case1 _ _ _ _ rest ih =>
      simp only [List.length_cons, ih]
      omega
  | case2 digits short =>
      have few : digits.length < 4 := by
        by_contra enough
        obtain ⟨a, b, c, d, rest, rfl⟩ : ∃ a b c d rest, digits = a :: b :: c :: d :: rest := by
          match digits, enough with
          | a :: b :: c :: d :: rest, _ => exact ⟨a, b, c, d, rest, rfl⟩
          | [_, _, _], enough | [_, _], enough | [_], enough | [], enough => simp at enough
        exact short a b c d rest rfl
      simp only [List.length_nil]
      omega

theorem getElem_units {place : Nat} (within : place < digits.length / 4) :
    (units digits)[place]? =
      some (hexNumber ((digits.drop (4 * place)).take 4)).toUInt16 := by
  fun_induction units digits generalizing place with
  | case1 first second third fourth rest ih =>
      cases place with
      | zero => rfl
      | succ place =>
          simp only [List.length_cons] at within
          rw [List.getElem?_cons_succ, ih (by omega)]
          rfl
  | case2 digits short =>
      have few := length_units digits
      rw [units.eq_2 digits short] at few
      rw [← few] at within
      exact absurd within (Nat.not_lt_zero _)

theorem digits_of_unitDigits {component : List Char} (taken : unitDigits? component = some digits) :
    ∀ digit ∈ digits, isHexDigit digit = true := by
  unfold unitDigits? at taken
  split at taken
  case h_1 =>
    rw [Option.ite_none_right_eq_some, Bool.and_eq_true, Bool.and_eq_true, List.all_eq_true]
      at taken
    obtain ⟨⟨_, hexadecimal⟩, same⟩ := taken
    cases same
    exact hexadecimal
  case h_2 => exact absurd taken nofun

theorem units_slices {component : List Char} (taken : unitDigits? component = some digits) :
    let size := (String.ofList digits).utf8ByteSize
    (units digits).length = size / 4 ∧
      ∀ place < size / 4, ∃ part, Slices (String.ofList digits) (4 * place) (4 * place + 4) part ∧
        (units digits)[place]? = some (hexNumber part.toList).toUInt16 := by
  have hexadecimal := digits_of_unitDigits taken
  rw [utf8ByteSize_of_digits hexadecimal]
  refine ⟨length_units digits, ?_⟩
  intro place within
  refine ⟨_, slices_of_digits hexadecimal (by omega), ?_⟩
  rw [String.toList_ofList, getElem_units within]

end slices

/-- A name made of components stands for their texts in order, whatever suffix follows, and for
nothing iff one of them does. So does each name that has an empty component. A name with
underscores is read by calls on its components, which are shorter and have no underscores, and the
digits of code units are taken apart between characters. -/
theorem joined_name_is_read_by_components :
    (∀ (parts : List String) (name : String), parts ≠ [] → (∀ part ∈ parts, IsPlain part) →
      (name = "_".intercalate parts ∨ ∃ suffix, name = "_".intercalate parts ++ "." ++ suffix) →
      text? name = (parts.mapM text?).map String.join ∧
        (text? name = none ↔ ∃ part ∈ parts, text? part = none)) ∧
    (∀ name : String,
      ("" ∈ components name → text? name = none) ∧
      (text? name =
        if '_' ∈ base name then ((components name).mapM text?).map String.join
        else (componentText? (base name)).map String.ofList) ∧
      ('_' ∈ base name → ∀ part ∈ components name, part.length < name.length ∧ '_' ∉ base part)) ∧
    (∀ component digits : List Char, unitDigits? component = some digits →
      let size := (String.ofList digits).utf8ByteSize
      (units digits).length = size / 4 ∧
        ∀ place < size / 4, ∃ part, Slices (String.ofList digits) (4 * place) (4 * place + 4) part ∧
          (units digits)[place]? = some (hexNumber part.toList).toUInt16) := by
  refine ⟨?_, ?_, fun _ _ => units_slices⟩
  · intro parts name present plain spelled
    have absent := no_point_intercalate plain
    have whole : base name = ("_".intercalate parts).toList := by
      rcases spelled with rfl | ⟨suffix, rfl⟩
      · exact base_of_no_point absent
      · exact base_suffix absent suffix
    rw [text_eq, components_of_joined present plain whole, Option.map_eq_none_iff]
    exact ⟨rfl, mapM_text_eq_none_iff⟩
  · intro name
    refine ⟨?_, ?_, ?_⟩
    · intro empty
      rw [text_eq, Option.map_eq_none_iff, mapM_text_eq_none_iff]
      exact ⟨"", empty, text_empty⟩
    · split
      case isTrue => exact text_eq name
      case isFalse single => exact text_of_single single
    · intro joined part member
      refine ⟨length_of_mem_components joined member, ?_⟩
      have plain := isPlain_of_mem_components member
      rw [base_of_no_point plain.1]
      exact plain.2

theorem suffix_is_dropped_and_gap_has_no_text :
    text? "f_f_i.sc" = some "ffi" ∧ text? "f__i" = none := by
  obtain ⟨joined, each, _⟩ := joined_name_is_read_by_components
  constructor
  · have spelled := joined ["f", "f", "i"] "f_f_i.sc" nofun
      (by decide +kernel) (.inr ⟨"sc", by decide +kernel⟩)
    rw [spelled.1]
    decide +kernel
  · exact (each "f__i").1 (by decide +kernel)

end PdfElements.GlyphName
