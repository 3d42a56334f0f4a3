import Mathlib.Algebra.Order.Ring.Cast
import Mathlib.Tactic.Linarith
import PdfElements.Proofs.Arithmetic.Order
import PdfElements.Proofs.Arithmetic.Rational

/-! Exact arithmetic with an order. Over a totally ordered field, rounding to the nearest integer, a
half away from zero, keeps the order, and so does rounding to decimal places, which moves nothing a
second time. -/

set_option autoImplicit false

namespace PdfElements

namespace Scalar

/-- The operations keep the laws of a totally ordered field, of which all elements are numbers. -/
class OrderedField (K : Type) [Scalar K] : Prop extends Exact K where
  isNumber (a : K) : isNumber a
  le_trans {a b c : K} : a ≤ b → b ≤ c → a ≤ c
  le_antisymm {a b : K} : a ≤ b → b ≤ a → a = b
  le_total (a b : K) : a ≤ b ∨ b ≤ a
  lt_iff {a b : K} : a < b ↔ a ≤ b ∧ ¬b ≤ a
  add_le_add_left {a b : K} : a ≤ b → ∀ c, a + c ≤ b + c
  mul_pos {a b : K} : ofInt 0 < a → ofInt 0 < b → ofInt 0 < a * b
  zero_lt_one : (ofInt 0 : K) < ofInt 1

/-- A value that is not negative is rounded to the integer that is less than a half below it and at
most a half above it, and a negative one likewise with its sign turned. -/
class RoundsHalfAway (K : Type) [Scalar K] : Prop where
  nearest {a : K} : ofInt 0 ≤ a → ∃ whole : Int, roundToInteger a = ofInt whole ∧
    ofInt (2 * whole - 1) ≤ ofInt 2 * a ∧ ofInt 2 * a < ofInt (2 * whole + 1)
  neg (a : K) : roundToInteger (-a) = -roundToInteger a

namespace OrderedField

variable (K : Type) [Scalar K] [OrderedField K]

instance ordered : Ordered K where
  le_trans := le_trans
  le_total _ _ := le_total _ _
  isNumber_of_le _ := ⟨isNumber _, isNumber _⟩
  lt_iff := lt_iff

abbrev linearOrder : LinearOrder K where
  le_refl a := Ordered.le_refl (isNumber a)
  le_trans _ _ _ := le_trans
  le_antisymm _ _ := le_antisymm
  le_total := le_total
  lt_iff_le_not_ge _ _ := lt_iff
  toDecidableLE := Scalar.decidableLE

theorem isStrictOrderedRing :
    let _ := Exact.commRing K
    let _ := linearOrder K
    IsStrictOrderedRing K := by
  let _ := Exact.commRing K
  let _ := linearOrder K
  have : IsOrderedAddMonoid K := { add_le_add_left := fun _ _ le c => add_le_add_left le c }
  have : ZeroLEOneClass K := ⟨(lt_iff.mp zero_lt_one).1⟩
  have : Nontrivial K := ⟨0, 1, (zero_lt_one (K := K)).ne⟩
  exact .of_mul_pos fun _ _ => mul_pos

theorem intCast_eq (value : Int) :
    let _ := Exact.commRing K
    (value : K) = ofInt value := by
  let _ := Exact.commRing K
  let integers : ℤ →+* K :=
    { toFun := ofInt, map_one' := rfl, map_zero' := rfl, map_add' := Exact.ofInt_add,
      map_mul' := Exact.ofInt_mul }
  exact (eq_intCast integers value).symm

variable {K}

theorem ofInt_le_ofInt {m n : Int} : (ofInt m : K) ≤ ofInt n ↔ m ≤ n := by
  let _ := Exact.commRing K
  let _ := linearOrder K
  have := isStrictOrderedRing K
  rw [← intCast_eq, ← intCast_eq]
  exact Int.cast_le

theorem ofInt_lt_ofInt {m n : Int} : (ofInt m : K) < ofInt n ↔ m < n := by
  let _ := Exact.commRing K
  let _ := linearOrder K
  have := isStrictOrderedRing K
  rw [← intCast_eq, ← intCast_eq]
  exact Int.cast_lt

variable {factor a b : K}

theorem mul_le_mul_right (positive : ofInt 0 < factor) (le : a ≤ b) : a * factor ≤ b * factor := by
  let _ := Exact.commRing K
  let _ := linearOrder K
  have := isStrictOrderedRing K
  exact mul_le_mul_of_nonneg_right le positive.le

theorem div_le_div_right (positive : ofInt 0 < factor) (le : a ≤ b) : a / factor ≤ b / factor := by
  let _ := Exact.commRing K
  let _ := linearOrder K
  have := isStrictOrderedRing K
  refine le_of_mul_le_mul_right ?_ positive
  rwa [Exact.div_mul_cancel a positive.ne', Exact.div_mul_cancel b positive.ne']

theorem div_mul_cancel_of_pos (positive : ofInt 0 < factor) : a / factor * factor = a := by
  let _ := linearOrder K
  exact Exact.div_mul_cancel a positive.ne'

theorem sub_lt_zero : a - b < ofInt 0 ↔ a < b := by
  let _ := Exact.commRing K
  let _ := linearOrder K
  have := isStrictOrderedRing K
  rw [Exact.sub_eq_add_neg]
  exact add_neg_lt_iff_lt_add.trans (by rw [Exact.zero_add])

theorem greater_sub_zero :
    greater (a - b) (ofInt 0) = if b ≤ a then a - b else ofInt 0 := by
  rw [greater, if_pos (isNumber _)]
  by_cases less : a < b
  · rw [if_pos (sub_lt_zero.mpr less), if_neg (lt_iff.mp less).2]
  · have le : b ≤ a := (Ordered.not_lt (isNumber a) (isNumber b)).mp less
    rw [if_neg (mt sub_lt_zero.mp less), if_pos le]

end OrderedField

/-! ### Rounding -/

namespace RoundsHalfAway

variable {K : Type} [Scalar K] [OrderedField K] [RoundsHalfAway K] {a b : K}

private theorem round_nonneg (nonneg : ofInt 0 ≤ a) : ofInt 0 ≤ roundToInteger a := by
  obtain ⟨whole, rounded, _, above⟩ := nearest nonneg
  let _ := Exact.commRing K
  let _ := OrderedField.linearOrder K
  have := OrderedField.isStrictOrderedRing K
  have double : (ofInt 0 : K) ≤ ofInt 2 * a :=
    mul_nonneg (OrderedField.ofInt_le_ofInt.mpr (by decide)) nonneg
  have sign := OrderedField.ofInt_lt_ofInt.mp (lt_of_le_of_lt double above)
  rw [rounded, OrderedField.ofInt_le_ofInt]
  omega

private theorem round_mono_of_nonneg (nonneg : ofInt 0 ≤ a) (le : a ≤ b) :
    roundToInteger a ≤ roundToInteger b := by
  let _ := Exact.commRing K
  let _ := OrderedField.linearOrder K
  have := OrderedField.isStrictOrderedRing K
  obtain ⟨lower, roundedLower, below, _⟩ := nearest nonneg
  obtain ⟨upper, roundedUpper, _, above⟩ := nearest (nonneg.trans le)
  have two : (ofInt 0 : K) ≤ ofInt 2 := OrderedField.ofInt_le_ofInt.mpr (by decide)
  have doubles : ofInt 2 * a ≤ ofInt 2 * b := mul_le_mul_of_nonneg_left le two
  have whole := OrderedField.ofInt_lt_ofInt.mp (lt_of_le_of_lt (below.trans doubles) above)
  rw [roundedLower, roundedUpper, OrderedField.ofInt_le_ofInt]
  omega

theorem roundToInteger_mono (le : a ≤ b) : roundToInteger a ≤ roundToInteger b := by
  let _ := Exact.commRing K
  let _ := OrderedField.linearOrder K
  have := OrderedField.isStrictOrderedRing K
  have opposite (value : K) : -roundToInteger (-value) = roundToInteger value := by
    rw [neg, neg_neg]
  rcases le_total (ofInt 0) a with first | first
  · exact round_mono_of_nonneg first le
  rcases le_total (ofInt 0) b with second | second
  · have below : ofInt 0 ≤ roundToInteger (-a) := round_nonneg (neg_nonneg.mpr first)
    rw [← opposite a]
    exact (neg_nonpos.mpr below).trans (round_nonneg second)
  · rw [← opposite a, ← opposite b]
    exact neg_le_neg (round_mono_of_nonneg (neg_nonneg.mpr second) (neg_le_neg le))

private theorem round_ofNat (value : Nat) : roundToInteger (ofInt value : K) = ofInt value := by
  obtain ⟨whole, rounded, below, above⟩ :=
    nearest (OrderedField.ofInt_le_ofInt (K := K).mpr (Int.natCast_nonneg value))
  rw [← Exact.ofInt_mul, OrderedField.ofInt_le_ofInt] at below
  rw [← Exact.ofInt_mul, OrderedField.ofInt_lt_ofInt] at above
  rw [rounded]
  congr 1
  omega

omit [RoundsHalfAway K] in
theorem ofInt_neg (value : Int) : (ofInt (-value) : K) = -ofInt value := by
  let _ := Exact.commRing K
  rw [← OrderedField.intCast_eq, ← OrderedField.intCast_eq, Int.cast_neg]

theorem roundToInteger_ofInt (value : Int) : roundToInteger (ofInt value : K) = ofInt value := by
  obtain ⟨size, same | same⟩ := value.eq_nat_or_neg
  · rw [same, round_ofNat]
  · rw [same, ofInt_neg, neg, round_ofNat]

theorem roundToInteger_eq (a : K) : ∃ whole : Int, roundToInteger a = ofInt whole := by
  let _ := Exact.commRing K
  let _ := OrderedField.linearOrder K
  have := OrderedField.isStrictOrderedRing K
  rcases le_total (ofInt 0) a with sign | sign
  · obtain ⟨whole, rounded, _⟩ := nearest sign
    exact ⟨whole, rounded⟩
  · obtain ⟨whole, rounded, _⟩ := nearest (neg_nonneg.mpr sign)
    refine ⟨-whole, ?_⟩
    rw [ofInt_neg, ← rounded, neg, neg_neg]

end RoundsHalfAway

section Places

variable {K : Type} [Scalar K] [OrderedField K] [RoundsHalfAway K] {a b : K}

omit [RoundsHalfAway K] in
theorem zero_lt_scale (places : Nat) : (ofInt 0 : K) < ofInt (Nat.pow 10 (min places 15)) :=
  OrderedField.ofInt_lt_ofInt.mpr (Int.natCast_pos.mpr (Nat.pow_pos (by decide)))

theorem roundTo_mono (places? : Option Nat) (le : a ≤ b) : roundTo a places? ≤ roundTo b places? := by
  cases places? with
  | none => exact le
  | some places =>
      have positive := zero_lt_scale (K := K) places
      exact OrderedField.div_le_div_right positive
        (RoundsHalfAway.roundToInteger_mono (OrderedField.mul_le_mul_right positive le))

/-- What is rounded to some places is not moved by rounding to them again. -/
theorem roundTo_roundTo (places? : Option Nat) (a : K) :
    roundTo (roundTo a places?) places? = roundTo a places? := by
  cases places? with
  | none => rfl
  | some places =>
      have positive := zero_lt_scale (K := K) places
      obtain ⟨whole, rounded⟩ :=
        RoundsHalfAway.roundToInteger_eq (a * ofInt (Nat.pow 10 (min places 15)))
      simp only [roundTo, rounded, OrderedField.div_mul_cancel_of_pos positive,
        RoundsHalfAway.roundToInteger_ofInt]

end Places

end Scalar

instance : Scalar.OrderedField ℚ where
  isNumber value := beq_self_eq_true value
  le_trans := le_trans
  le_antisymm := le_antisymm
  le_total := le_total
  lt_iff := lt_iff_le_not_ge
  add_le_add_left le _ := by gcongr
  mul_pos {a b} first second := by
    change ((0 : Int) : ℚ) < a at first
    change ((0 : Int) : ℚ) < b at second
    change ((0 : Int) : ℚ) < a * b
    rw [Int.cast_zero] at *
    exact mul_pos first second
  zero_lt_one := by decide

private theorem floor_nearest {value : ℚ} :
    let whole := (value + 1 / 2).floor
    ((2 * whole - 1 : Int) : ℚ) ≤ 2 * value ∧ 2 * value < ((2 * whole + 1 : Int) : ℚ) := by
  intro whole
  have below : (whole : ℚ) ≤ value + 1 / 2 := Rat.floor_le _
  have above : value + 1 / 2 < (whole + 1 : Int) := Rat.lt_floor_add_one _
  push_cast at above ⊢
  constructor <;> linarith

/-- Roundings of rational numbers are floors. -/
instance : Scalar.RoundsHalfAway ℚ where
  nearest {value} nonneg := by
    change ((0 : Int) : ℚ) ≤ value at nonneg
    rw [Int.cast_zero] at nonneg
    refine ⟨(value + 1 / 2).floor, ?_, floor_nearest⟩
    exact if_neg nonneg.not_gt
  neg value := by
    change (if -value < 0 then (_ : ℚ) else _) = -(if value < 0 then (_ : ℚ) else _)
    rcases lt_trichotomy value 0 with negative | rfl | positive
    · rw [if_neg (by linarith), if_pos negative, neg_neg]
    · decide +kernel
    · rw [if_pos (by linarith), if_neg positive.not_gt, neg_neg]

end PdfElements
