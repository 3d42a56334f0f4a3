import PdfElements.Scalar

/-! The order of numbers. Numbers are totally ordered between two infinities, and what is no number
compares with nothing; the lesser and the greater of two numbers are their bounds in this order. -/

set_option autoImplicit false

namespace PdfElements.Scalar

/-- Numbers are totally ordered. Two of them may be equal in the order and still differ, as the two
zeros of floating point do. -/
class Ordered (K : Type) [Scalar K] : Prop where
  le_trans {a b c : K} : a ≤ b → b ≤ c → a ≤ c
  le_total {a b : K} : isNumber a → isNumber b → a ≤ b ∨ b ≤ a
  isNumber_of_le {a b : K} : a ≤ b → isNumber a ∧ isNumber b
  lt_iff {a b : K} : a < b ↔ a ≤ b ∧ ¬b ≤ a

/-- The infinities lie beyond all numbers. Integers are numbers, and a difference is one only of
numbers. -/
class Limited (K : Type) [Scalar K] : Prop where
  le_infinity {a : K} : isNumber a → a ≤ infinity
  neg_infinity_le {a : K} : isNumber a → -infinity ≤ a
  isNumber_ofInt (value : Int) : isNumber (ofInt value : K)
  isNumber_of_sub {a b : K} : isNumber (a - b) → isNumber a ∧ isNumber b

/-- There are only numbers, and two of them that are equal in the order are the same. -/
class Total (K : Type) [Scalar K] : Prop extends Ordered K, Limited K where
  isNumber (a : K) : isNumber a
  le_antisymm {a b : K} : a ≤ b → b ≤ a → a = b

namespace Ordered

variable {K : Type} [Scalar K] [Ordered K] {a b c : K}

theorem le_refl (number : isNumber a) : a ≤ a :=
  (le_total number number).elim id id

theorem le_of_lt (less : a < b) : a ≤ b := (lt_iff.mp less).1

theorem not_lt (first : isNumber a) (second : isNumber b) : ¬a < b ↔ b ≤ a := by
  rw [lt_iff]
  constructor
  · intro notLess
    rcases le_total first second with le | ge
    · exact Decidable.byContradiction fun notGe => notLess ⟨le, notGe⟩
    · exact ge
  · rintro ge ⟨_, notGe⟩
    exact notGe ge

/-! ### The lesser and the greater of two values -/

theorem lesser_le_left (number : isNumber a) : lesser a b ≤ a := by
  unfold lesser
  rw [if_pos number]
  split
  · next less => exact le_of_lt less
  · exact le_refl number

theorem lesser_le_right (number : isNumber b) : lesser a b ≤ b := by
  unfold lesser
  split
  · next first =>
      split
      · exact le_refl number
      · next notLess => exact (not_lt number first).mp notLess
  · exact le_refl number

theorem left_le_greater (number : isNumber a) : a ≤ greater a b := by
  unfold greater
  rw [if_pos number]
  split
  · next less => exact le_of_lt less
  · exact le_refl number

theorem right_le_greater (number : isNumber b) : b ≤ greater a b := by
  unfold greater
  split
  · next first =>
      split
      · exact le_refl number
      · next notLess => exact (not_lt first number).mp notLess
  · exact le_refl number

theorem le_lesser_iff (first : isNumber a) (second : isNumber b) :
    c ≤ lesser a b ↔ c ≤ a ∧ c ≤ b := by
  constructor
  · intro least
    exact ⟨le_trans least (lesser_le_left first), le_trans least (lesser_le_right second)⟩
  · rintro ⟨left, right⟩
    rw [lesser, if_pos first]
    split
    · exact right
    · exact left

theorem greater_le_iff (first : isNumber a) (second : isNumber b) :
    greater a b ≤ c ↔ a ≤ c ∧ b ≤ c := by
  constructor
  · intro most
    exact ⟨le_trans (left_le_greater first) most, le_trans (right_le_greater second) most⟩
  · rintro ⟨left, right⟩
    rw [greater, if_pos first]
    split
    · exact right
    · exact left

end Ordered

namespace Total

variable {K : Type} [Scalar K] [Total K] {a b c : K}

theorem not_lt : ¬a < b ↔ b ≤ a := Ordered.not_lt (isNumber a) (isNumber b)

theorem le_lesser_iff : c ≤ lesser a b ↔ c ≤ a ∧ c ≤ b :=
  Ordered.le_lesser_iff (isNumber a) (isNumber b)

theorem greater_le_iff : greater a b ≤ c ↔ a ≤ c ∧ b ≤ c :=
  Ordered.greater_le_iff (isNumber a) (isNumber b)

theorem lesser_le_greater : lesser a b ≤ greater a b :=
  Ordered.le_trans (Ordered.lesser_le_left (isNumber a)) (Ordered.left_le_greater (isNumber a))

end Total

end PdfElements.Scalar
