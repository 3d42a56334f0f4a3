import PdfElements.Font.Widths
import PdfElements.Proofs.Font.Latest

/-! Widths of composite fonts. An array holds entries of two objects and entries of three, and
nothing but the second object of an entry tells the two kinds apart. Entries that are written well
are read one by one, and the last one that covers a code says how wide its glyph is. -/

set_option autoImplicit false

namespace PdfElements

theorem Object.array?_eq_some_iff {object : Object} {items : List Object} :
    object.array? = some items ↔ object = .array items := by
  cases object <;> simp [array?]

namespace ObjectStore

variable {store : ObjectStore}

theorem follow_ne_reference {hops : Nat} {object found : Object}
    (followed : store.follow hops object = .ok found) (id : ObjectId) :
    found ≠ .reference id := by
  rintro rfl
  induction hops generalizing object with
  | zero =>
      cases object with
      | reference target =>
          simp only [follow] at followed
          split at followed <;> cases followed
      | _ => cases followed
  | succ hops ih =>
      cases object with
      | reference target =>
          simp only [follow] at followed
          split at followed
          · cases followed
          · exact ih followed
      | _ => cases followed

theorem resolve_resolve (object : Object) :
    store.resolve (store.resolve object) = store.resolve object := by
  cases object with
  | reference target =>
      cases reached : store.object target with
      | error fault => simp only [resolve, reached]
      | ok found =>
          have last : store.resolve found = found := by
            cases found with
            | reference id =>
                unfold ObjectStore.object at reached
                split at reached
                · cases reached
                · exact absurd rfl (follow_ne_reference reached id)
            | _ => rfl
          simp only [resolve, reached]
          exact last
  | _ => rfl

theorem numberOf?_resolve {K : Type} [Scalar K] (object : Object) :
    store.numberOf? (K := K) (store.resolve object) = store.numberOf? object := by
  rw [numberOf?, numberOf?, resolve_resolve]

end ObjectStore

/-- Widths as they are written: a code and an array of widths, or two codes and a width. -/
inductive WrittenWidths where
  | list (first widths : Object)
  | range (first last width : Object)

namespace WrittenWidths

def objects : WrittenWidths → List Object
  | .list first widths => [first, widths]
  | .range first last width => [first, last, width]

variable {K : Type} [Scalar K] {store : ObjectStore}

variable (K store) in
/-- Codes and widths are numbers, and the objects that make a list are a code and an array, all of
them at the end of their references. Items of the array need not be numbers. -/
inductive WellFormed : WrittenWidths → Prop where
  | list {first widths : Object} {start : Nat} {items : List Object} :
      WidthEntry.code? (K := K) store first = some start → store.resolve widths = .array items →
      WellFormed (.list first widths)
  | range {first last width : Object} {low high : Nat} {value : K} :
      WidthEntry.code? (K := K) store first = some low →
      WidthEntry.code? (K := K) store last = some high → store.numberOf? width = some value →
      WellFormed (.range first last width)

variable (store) in
inductive Covers : WrittenWidths → Nat → K → Prop where
  | list {first widths item : Object} {start place : Nat} {items : List Object} {width : K} :
      WidthEntry.code? (K := K) store first = some start → store.resolve widths = .array items →
      items[place]? = some item → store.numberOf? item = some width →
      start + place ≤ 0xFFFFFFFF → Covers (.list first widths) (start + place) width
  | range {first last width : Object} {low high code : Nat} {value : K} :
      WidthEntry.code? (K := K) store first = some low →
      WidthEntry.code? (K := K) store last = some high → store.numberOf? width = some value →
      low ≤ code → code ≤ min high (low + 0xFFFF) → Covers (.range first last width) code value

theorem code_le {object : Object} {code : Nat}
    (found : WidthEntry.code? (K := K) store object = some code) : code ≤ 0xFFFFFFFF := by
  obtain ⟨value, _, rfl⟩ := Option.map_eq_some_iff.mp found
  have power : Nat.pow 2 32 = 4294967296 := rfl
  simp only [Scalar.toCode, Number.clamp, power]
  omega

theorem Covers.code_le {entry : WrittenWidths} {code : Nat} {width : K}
    (covers : Covers store entry code width) : code ≤ 0xFFFFFFFF := by
  cases covers with
  | list => omega
  | range _ last _ _ within => exact Nat.le_trans (by omega) (WrittenWidths.code_le last)

variable (K store) in
def made? : WrittenWidths → Option (WidthEntry K)
  | .list first widths => do
    let start ← WidthEntry.code? (K := K) store first
    let items ← (store.resolve widths).array?
    return .listed start (items.map store.numberOf?)
  | .range first last width => do
    let low ← WidthEntry.code? (K := K) store first
    WidthEntry.ofRange? store low last width

section entries

variable {first last width widths : Object} {start low high : Nat} {items : List Object}
  {value : K}

theorem entry_list (code : WidthEntry.code? (K := K) store first = some start)
    (array : store.resolve widths = .array items) :
    (WrittenWidths.list first widths).made? K store =
      some (.listed start (items.map store.numberOf?)) := by
  simp [made?, code, array, Object.array?]

theorem ofRange_resolve (code : WidthEntry.code? (K := K) store last = some high)
    (number : store.numberOf? width = some value) :
    WidthEntry.ofRange? store low (store.resolve last) width =
      some (.run low (min high (min (low + 0xFFFF) (WidthEntry.codeLimit - 1))) value) := by
  rw [WidthEntry.code?] at code
  simp [WidthEntry.ofRange?, WidthEntry.code?, ObjectStore.numberOf?_resolve, code, number]

theorem entry_range (firstCode : WidthEntry.code? (K := K) store first = some low)
    (lastCode : WidthEntry.code? (K := K) store last = some high)
    (number : store.numberOf? width = some value) :
    (WrittenWidths.range first last width).made? K store =
      some (.run low (min high (min (low + 0xFFFF) (WidthEntry.codeLimit - 1))) value) := by
  simp [made?, firstCode, WidthEntry.ofRange?, lastCode, number]

end entries

/-- What is read from an entry does not depend on what stands before it or behind it, and what is
behind it is read as if an array began there. -/
theorem readFrom_objects {entry : WrittenWidths} (wellFormed : WellFormed K store entry)
    (reversed : List (WidthEntry K)) (rest : List Object) :
    ∃ read, entry.made? K store = some read ∧
      WidthEntry.readFrom store reversed (entry.objects ++ rest) =
        WidthEntry.readFrom store (read :: reversed) rest := by
  cases wellFormed with
  | list code array =>
      refine ⟨_, entry_list code array, ?_⟩
      simp only [objects, List.cons_append, List.nil_append, WidthEntry.readFrom, code, array]
  | range firstCode lastCode number =>
      refine ⟨_, entry_range firstCode lastCode number, ?_⟩
      simp only [objects, List.cons_append, List.nil_append, WidthEntry.readFrom, firstCode]
      split
      · next items array =>
          simp [WidthEntry.code?, ObjectStore.numberOf?, array, Object.number?] at lastCode
      · rw [ofRange_resolve lastCode number]

def width? (store : ObjectStore) (entry : WrittenWidths) (code : Nat) : Option K :=
  (entry.made? K store).bind fun read => read.width? code

theorem Covers.width? {entry : WrittenWidths} {code : Nat} {width : K}
    (covers : Covers store entry code width) : entry.width? store code = some width := by
  have limit : WidthEntry.codeLimit = 0x100000000 := rfl
  cases covers with
  | list start array member number within =>
      rw [WrittenWidths.width?, entry_list start array, Option.bind_some, WidthEntry.width?, limit,
        if_pos (by simp only [Bool.and_eq_true, decide_eq_true_eq]; omega)]
      simp [member, number]
  | range firstCode lastCode number above below =>
      have small := WrittenWidths.code_le lastCode
      rw [WrittenWidths.width?, entry_range firstCode lastCode number, Option.bind_some,
        WidthEntry.width?, limit,
        if_pos (by simp only [Bool.and_eq_true, decide_eq_true_eq]; omega)]

theorem width_eq_some_iff_covers (entry : WrittenWidths) (code : Nat) (width : K) :
    entry.width? store code = some width ↔ Covers store entry code width := by
  refine ⟨fun given => ?_, Covers.width?⟩
  have limit : WidthEntry.codeLimit = 0x100000000 := rfl
  obtain ⟨read, made, given⟩ := Option.bind_eq_some_iff.mp given
  cases entry with
  | list first widths =>
      obtain ⟨start, first, made⟩ := Option.bind_eq_some_iff.mp made
      obtain ⟨items, array, made⟩ := Option.bind_eq_some_iff.mp made
      cases made
      simp only [WidthEntry.width?, limit, Bool.and_eq_true, decide_eq_true_eq] at given
      split at given
      · next within =>
          rw [List.getElem?_map, Option.join_eq_some_iff, Option.map_eq_some_iff] at given
          obtain ⟨item, member, number⟩ := given
          have place : start + (code - start) = code := Nat.add_sub_cancel' within.1
          rw [← place]
          exact .list first (Object.array?_eq_some_iff.mp array) member number (by omega)
      · cases given
  | range first last value =>
      obtain ⟨low, firstCode, made⟩ := Option.bind_eq_some_iff.mp made
      obtain ⟨high, lastCode, made⟩ := Option.bind_eq_some_iff.mp made
      obtain ⟨value, number, made⟩ := Option.bind_eq_some_iff.mp made
      cases made
      simp only [WidthEntry.width?, limit, Bool.and_eq_true, decide_eq_true_eq] at given
      split at given
      · next within =>
          cases given
          exact .range firstCode lastCode number within.1 (by omega)
      · cases given

/-- Entries are read one by one, and what is behind them as if an array began there. -/
theorem readFrom_flatMap_objects {entries : List WrittenWidths}
    (wellFormed : ∀ entry ∈ entries, WellFormed K store entry)
    (reversed : List (WidthEntry K)) (rest : List Object) :
    WidthEntry.readFrom store reversed (entries.flatMap objects ++ rest) =
        WidthEntry.readFrom store ((entries.filterMap (made? K store)).reverse ++ reversed) rest ∧
      (entries.filterMap (made? K store)).length = entries.length := by
  induction entries generalizing reversed with
  | nil => exact ⟨rfl, rfl⟩
  | cons entry others ih =>
      obtain ⟨first, later⟩ := List.forall_mem_cons.mp wellFormed
      obtain ⟨read, made, onward⟩ :=
        readFrom_objects first reversed (others.flatMap objects ++ rest)
      obtain ⟨behind, count⟩ := ih later (read :: reversed)
      rw [List.filterMap_cons_some made, List.flatMap_cons, List.append_assoc, onward, behind]
      simp [count]

theorem readFrom_eq {entries : List WrittenWidths}
    (wellFormed : ∀ entry ∈ entries, WellFormed K store entry) :
    WidthEntry.readFrom store [] (entries.flatMap objects) =
      (entries.filterMap (made? K store)).reverse := by
  have whole := (readFrom_flatMap_objects wellFormed [] []).1
  rwa [List.append_nil, List.append_nil, WidthEntry.readFrom] at whole

end WrittenWidths

namespace CompositeWidths

open WrittenWidths

variable {K : Type} [Scalar K] {store : ObjectStore}

omit [Scalar K] in
/-- The width that the entries give a code, if one of them does. -/
def given? (widths : CompositeWidths K) (code : Nat) : Option K :=
  widths.entries.findSome? fun entry => entry.width? code

theorem given_eq {widths : CompositeWidths K} {entries : List WrittenWidths}
    (read : widths.entries = (entries.filterMap (made? K store)).reverse) (code : Nat) :
    widths.given? code =
      entries.reverse.findSome? fun entry => entry.width? store code := by
  rw [given?, read, ← List.filterMap_reverse, ← List.head?_filterMap, List.filterMap_filterMap,
    List.head?_filterMap]
  rfl

/-- The widths of a font with an array of well-formed entries are those of the last entry that
covers a code, and no widths where none does. Behind each entry the reader is where the next one
begins, and no code that an entry covers is too large for 32 bits. -/
theorem last_entry_decides_width {descendant : Dictionary} {entries : List WrittenWidths}
    (wellFormed : ∀ entry ∈ entries, WellFormed K store entry)
    (array : store.array? descendant "W" = some (entries.flatMap objects)) :
    let widths : CompositeWidths K := read store (some descendant)
    (∀ code width, widths.given? code = some width ↔
        GivenLast (fun entry => Covers store entry code) entries width) ∧
      (∀ code, widths.given? code = none ↔
        ∀ entry ∈ entries, ∀ width : K, ¬ Covers store entry code width) ∧
      (∀ code, widths.width code = (widths.given? code).getD widths.standard) ∧
      (∀ before after, entries = before ++ after →
        let behind : List (WidthEntry K) := WidthEntry.readFrom store [] (before.flatMap objects)
        behind.length = before.length ∧
          widths.entries = WidthEntry.readFrom store behind (after.flatMap objects)) ∧
      ∀ entry ∈ entries, ∀ code, ∀ width : K,
        Covers store entry code width → code ≤ 0xFFFFFFFF := by
  intro widths
  have whole : widths.entries = WidthEntry.readFrom store [] (entries.flatMap objects) := by
    simp only [widths, read, Option.getD_some, array]
  have agrees (code : Nat) (entry : WrittenWidths) (width : K) :
      entry.width? store code = some width ↔ Covers store entry code width :=
    width_eq_some_iff_covers entry code width
  have listed (code : Nat) : widths.given? code = _ :=
    given_eq (whole.trans (readFrom_eq wellFormed)) code
  refine ⟨?_, ?_, fun _ => rfl, ?_, fun _ _ _ _ covers => covers.code_le⟩
  · intro code width
    rw [listed]
    exact findSome_reverse_eq_some_iff (agrees code) entries width
  · intro code
    rw [listed]
    exact findSome_reverse_eq_none_iff (agrees code) entries
  · rintro before after rfl
    have first : ∀ entry ∈ before, WellFormed K store entry := fun entry member =>
      wellFormed entry (List.mem_append_left after member)
    have cut := readFrom_flatMap_objects first [] (after.flatMap objects)
    refine ⟨?_, ?_⟩
    · rw [readFrom_eq first, List.length_reverse, cut.2]
    · rw [whole, List.flatMap_append, cut.1, readFrom_eq first, List.append_nil]

/-- The array `[5 6 700 6 [50 null] 4294967295 [500 500]]`. -/
def overlappingWidths : List WrittenWidths :=
  [.range (.integer 5) (.integer 6) (.integer 700),
    .list (.integer 6) (.array [.integer 50, .null]),
    .list (.integer 4294967295) (.array [.integer 500, .integer 500])]

/-- The list that begins with the last code of the range hides it there, and the list that begins
with the last code of all ends there. -/
theorem later_list_hides_range :
    let store : ObjectStore := ⟨[], []⟩
    let descendant : Dictionary :=
      [(Text.encodeUtf8 "W", .array (overlappingWidths.flatMap objects))]
    (∀ entry ∈ overlappingWidths, WellFormed Float store entry) ∧
      store.array? descendant "W" = some (overlappingWidths.flatMap objects) ∧
      GivenLast (fun entry => Covers store entry 6) overlappingWidths (50 : Float) ∧
      GivenLast (fun entry => Covers store entry 4294967295) overlappingWidths (500 : Float) ∧
      ∀ entry ∈ overlappingWidths, ∀ width : Float, ¬ Covers store entry 4294967296 width := by
  intro store descendant
  have wellFormed : ∀ entry ∈ overlappingWidths, WellFormed Float store entry := by
    simp only [overlappingWidths, List.forall_mem_cons, List.not_mem_nil]
    refine ⟨.range rfl rfl rfl, .list rfl rfl, .list rfl rfl, nofun⟩
  have array : store.array? descendant "W" = some (overlappingWidths.flatMap objects) := rfl
  obtain ⟨given, missing, _⟩ := last_entry_decides_width (K := Float) wellFormed array
  refine ⟨wellFormed, array, (given 6 50).mp ?_, (given 4294967295 500).mp ?_,
    (missing 4294967296).mp ?_⟩ <;> decide +kernel

end CompositeWidths

end PdfElements
