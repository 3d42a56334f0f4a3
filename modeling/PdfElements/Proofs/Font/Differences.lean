import Mathlib.Algebra.Group.Nat.Defs
import Mathlib.Algebra.Ring.Int.Defs
import PdfElements.Font.Encoding

/-! The codes of the names in an array of differences. A name has the code of the integer before it
and of one more for every name between the two, as far as codes are counted: from integers that are
not negative, and within 32 bits. -/

set_option autoImplicit false

namespace PdfElements.FontEncoding

/-- The last integer among some objects, and how many names are behind it. -/
def numbering? (objects : List Object) : Option (Int × Nat) :=
  let isOther (object : Object) : Bool := object.integer?.isNone
  let behind := objects.reverse.takeWhile isOther
  let last? := (objects.reverse.dropWhile isOther).head?.bind Object.integer?
  last?.map fun first => (first, behind.countP fun object => object.name?.isSome)

/-- The pair for the name at a place of an array, if there is one and its exact code is a byte. -/
def exactPair? (items : List Object) (place : Nat) : Option (UInt8 × String) := do
  let name ← items[place]?.bind Object.name?
  let (first, names) ← numbering? (items.take place)
  let code := first + names
  if 0 ≤ code ∧ code ≤ 255 then some (code.toNat.toUInt8, Text.decodeUtf8 name) else none

theorem numbering_integer (before : List Object) (value : Int) :
    numbering? (before ++ [.integer value]) = some (value, 0) := by
  simp [numbering?, Object.integer?]

theorem numbering_name (before : List Object) (name : List UInt8) :
    numbering? (before ++ [.name name]) =
      (numbering? before).map fun (first, names) => (first, names + 1) := by
  simp [numbering?, Object.integer?, Object.name?, Function.comp_def]

theorem numbering_other (before : List Object) {item : Object} (noInteger : item.integer? = none)
    (noName : item.name? = none) : numbering? (before ++ [item]) = numbering? before := by
  simp [numbering?, noInteger, noName]

/-! ### Codes as they are counted -/

/-- The code of a name behind some objects: it is counted in 32 bits from an integer that has no
more. -/
def counted? (before : List Object) : Option Nat :=
  (numbering? before).bind fun (first, names) =>
    if 0 ≤ first ∧ first < 2 ^ 32 then some ((first.toNat + names) % 2 ^ 32) else none

/-- The pair for the name at a place of an array, if there is one and its code, as it is counted, is
a byte. -/
def countedPair? (items : List Object) (place : Nat) : Option (UInt8 × String) := do
  let name ← items[place]?.bind Object.name?
  let code ← counted? (items.take place)
  if code < 256 then some (code.toUInt8, Text.decodeUtf8 name) else none

theorem counted_integer (before : List Object) (value : Int) :
    counted? (before ++ [.integer value]) =
      if 0 ≤ value && value < Nat.pow 2 32 then some value.toNat else none := by
  have power : Nat.pow 2 32 = 4294967296 := rfl
  simp only [counted?, numbering_integer, Option.bind_some, Nat.add_zero, power]
  by_cases within : 0 ≤ value ∧ value < 4294967296
  · have small : value.toNat % 4294967296 = value.toNat := by omega
    simp [within, small]
  · simp [within]

theorem counted_name (before : List Object) (name : List UInt8) :
    counted? (before ++ [.name name]) =
      (counted? before).map fun code => (code + 1) % Nat.pow 2 32 := by
  have power : Nat.pow 2 32 = 4294967296 := rfl
  simp only [counted?, numbering_name, power]
  cases numbering? before with
  | none => rfl
  | some numbering =>
      obtain ⟨first, names⟩ := numbering
      by_cases within : 0 ≤ first ∧ first < 4294967296
      · simp [within]
        omega
      · simp [within]

theorem counted_other (before : List Object) {item : Object} (noInteger : item.integer? = none)
    (noName : item.name? = none) : counted? (before ++ [item]) = counted? before := by
  rw [counted?, numbering_other before noInteger noName]
  rfl

theorem countedPair_length (before : List Object) (item : Object) (rest : List Object) :
    countedPair? (before ++ item :: rest) before.length = item.name?.bind fun name =>
      (counted? before).bind fun code =>
        if code < 256 then some (code.toUInt8, Text.decodeUtf8 name) else none := by
  simp [countedPair?]

theorem differenceNames_cons (before : List Object) (item : Object) (rest : List Object) :
    differenceNames (counted? before) (item :: rest) =
      (countedPair? (before ++ item :: rest) before.length).toList ++
        differenceNames (counted? (before ++ [item])) rest := by
  rw [countedPair_length]
  cases item with
  | integer value => rw [counted_integer]; rfl
  | name name =>
      rw [counted_name]
      cases counted? before with
      | none => rfl
      | some code =>
          simp only [differenceNames, Object.name?, Option.bind_some, Option.map_some]
          split <;> rfl
  | _ => rw [counted_other before rfl rfl]; rfl

/-- The names among the last items of an array, with the codes that are counted for them. -/
theorem differenceNames_counted (before items : List Object) :
    differenceNames (counted? before) items = (List.range items.length).filterMap fun place =>
      countedPair? (before ++ items) (before.length + place) := by
  induction items generalizing before with
  | nil => rfl
  | cons item rest ih =>
      have later := ih (before ++ [item])
      simp only [List.append_assoc, List.singleton_append, List.length_append, List.length_cons,
        List.length_nil, Nat.zero_add, Nat.add_assoc, Nat.add_comm 1] at later
      rw [differenceNames_cons, later, List.length_cons, List.range_succ_eq_map,
        List.filterMap_cons, List.filterMap_map, Nat.add_zero]
      cases countedPair? (before ++ item :: rest) before.length <;> rfl

theorem countedPair_eq_exactPair {items : List Object} {place names : Nat} {first : Int}
    (numbered : numbering? (items.take place) = some (first, names)) (nonnegative : 0 ≤ first)
    (fits : first < 2 ^ 32 → first + names + 1 < 2 ^ 32) :
    countedPair? items place = exactPair? items place := by
  have counted : counted? (items.take place) =
      if first < 2 ^ 32 then some (first.toNat + names) else none := by
    simp only [counted?, numbered, Option.bind_some, nonnegative, true_and]
    split
    · next small =>
        have exact : (first.toNat + names) % 2 ^ 32 = first.toNat + names := by
          have := fits small
          omega
        rw [exact]
    · rfl
  simp only [countedPair?, exactPair?, counted, numbered, Option.bind_eq_bind, Option.bind_some]
  congr 1
  funext name
  by_cases byte : first + names ≤ 255
  · have small : first < 2 ^ 32 ∧ first.toNat + names < 256 := by omega
    have code : (first + names).toNat = first.toNat + names := by omega
    have positive : 0 ≤ first + names := by omega
    rw [if_pos small.1, Option.bind_some, if_pos small.2, if_pos ⟨positive, byte⟩, code]
  · have large : ¬ (0 ≤ first + names ∧ first + names ≤ 255) := by omega
    have uncoded : ¬ first.toNat + names < 256 := by omega
    rw [if_neg large]
    split
    · simp [uncoded]
    · rfl

/-- The pairs for the names of an array are in their order. A name before which there is no integer,
or a negative one, is left out. Another one has the code of the last integer and of one more for
every name since; it is left out if that is no byte. Nothing is said here of names behind which the
codes that are counted for them no longer fit in 32 bits. -/
theorem names_are_numbered_from_integers (items : List Object) :
    ∃ pair? : Nat → Option (UInt8 × String),
      differenceNames none items = (List.range items.length).filterMap pair? ∧
      ∀ place, match numbering? (items.take place) with
        | none => pair? place = none
        | some (first, names) =>
          if first < 0 then pair? place = none
          else (first < 2 ^ 32 → first + names + 1 < 2 ^ 32) →
            pair? place = exactPair? items place := by
  refine ⟨countedPair? items, ?_, ?_⟩
  · have counted := differenceNames_counted [] items
    simp only [List.nil_append, List.length_nil, Nat.zero_add] at counted
    exact counted
  · intro place
    split
    · next unnumbered => simp [countedPair?, counted?, unnumbered]
    · next first names numbered =>
        split
        · next negative =>
            have uncounted : counted? (items.take place) = none := by
              simp [counted?, numbered, Int.not_le.mpr negative]
            simp [countedPair?, uncounted]
        · next nonnegative =>
            exact countedPair_eq_exactPair numbered (Int.not_lt.mp nonnegative)

/-- Codes do not count up from a negative integer: the exact code of `/B` in `[-1 /A /B]` is 0. -/
theorem names_behind_negative_integer_are_left_out :
    let items : List Object := [.integer (-1), .name [0x41], .name [0x42]]
    (List.range items.length).filterMap (exactPair? items) = [(0, "B")] ∧
      differenceNames none items = [] ∧
      differenceNames none items ≠ (List.range items.length).filterMap (exactPair? items) := by
  decide +kernel

end PdfElements.FontEncoding
