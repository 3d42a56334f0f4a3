import PdfElements.Proofs.Arithmetic.Order
import PdfElements.Proofs.Arithmetic.OrderedField

/-! Exact arithmetic with two infinities around it, between which the bounds of the empty rectangle
are inverted. An infinity takes over what it is added to, multiplied with or divided, and what has
no value with infinities takes some; numbers are computed with as ever. -/

set_option autoImplicit false

namespace PdfElements

/-- The elements of a type and two infinities around them. -/
inductive Extended (K : Type) where
  | negativeInfinity
  | number (value : K)
  | infinity
  deriving DecidableEq, Repr

namespace Extended

variable {K : Type} [Scalar K]

def le : Extended K → Extended K → Bool
  | negativeInfinity, _ | _, infinity => true
  | number first, number second => first ≤ second
  | infinity, _ | _, negativeInfinity => false

def lt : Extended K → Extended K → Bool
  | number first, number second => first < second
  | first, second => !second.le first

def beq : Extended K → Extended K → Bool
  | negativeInfinity, negativeInfinity | infinity, infinity => true
  | number first, number second => first == second
  | _, _ => false

def neg : Extended K → Extended K
  | negativeInfinity => infinity
  | number value => number (-value)
  | infinity => negativeInfinity

def add : Extended K → Extended K → Extended K
  | number first, number second => number (first + second)
  | number _, second => second
  | first, _ => first

/-- An infinity by the sign of a number; zero by zero. -/
def times (value : Extended K) (factor : K) : Extended K :=
  if Scalar.ofInt 0 < factor then value
  else if factor < Scalar.ofInt 0 then value.neg
  else number (Scalar.ofInt 0)

def mul : Extended K → Extended K → Extended K
  | number first, number second => number (first * second)
  | number first, second => second.times first
  | first, number second => first.times second
  | infinity, second => second
  | negativeInfinity, second => second.neg

def div : Extended K → Extended K → Extended K
  | number first, number second => number (first / second)
  | _, negativeInfinity | _, infinity => number (Scalar.ofInt 0)
  | first, number second => first.times second

def map (change : K → K) : Extended K → Extended K
  | number value => number (change value)
  | other => other

def read {Value : Type} (below : Value) (ofNumber : K → Value) (above : Value) :
    Extended K → Value
  | negativeInfinity => below
  | number value => ofNumber value
  | infinity => above

instance : Scalar (Extended K) where
  add := add
  sub first second := first.add second.neg
  mul := mul
  div := div
  neg := neg
  le first second := first.le second
  lt first second := first.lt second
  beq := beq
  decidableLE _ _ := inferInstanceAs (Decidable (_ = true))
  decidableLT _ _ := inferInstanceAs (Decidable (_ = true))
  ofInt value := number (Scalar.ofInt value)
  ofDecimal digits places := number (Scalar.ofDecimal digits places)
  ofSingle value := number (Scalar.ofSingle value)
  infinity := infinity
  magnitude := read infinity (fun value => number (Scalar.magnitude value)) infinity
  squareRoot := map Scalar.squareRoot
  roundToInteger := map Scalar.roundToInteger
  truncate := read (-(Nat.pow 2 63)) Scalar.truncate (Nat.pow 2 63 - 1)
  toSingle := read (-1.0 / 0.0) Scalar.toSingle (1.0 / 0.0)
  plainText := read Number.Style.plain.negativeInfinity Scalar.plainText Number.Style.plain.infinity
  diagnosticText := read Number.Style.diagnostic.negativeInfinity Scalar.diagnosticText
    Number.Style.diagnostic.infinity
  jsonText := read Number.Style.json.negativeInfinity Scalar.jsonText Number.Style.json.infinity

/-! ### The order -/

section Order

variable {first second : K}

@[simp] theorem number_le_number : number first ≤ number second ↔ first ≤ second :=
  decide_eq_true_iff

theorem number_lt_number : number first < number second ↔ first < second :=
  decide_eq_true_iff

@[simp] theorem negativeInfinity_le (value : Extended K) : negativeInfinity ≤ value := by
  cases value <;> rfl

@[simp] theorem le_infinity (value : Extended K) : value ≤ infinity := by
  cases value <;> rfl

@[simp] theorem not_infinity_le : ¬infinity ≤ number first := Bool.false_ne_true

@[simp] theorem not_le_negativeInfinity : ¬number first ≤ negativeInfinity := Bool.false_ne_true

@[simp] theorem not_infinity_le_negativeInfinity : ¬(infinity : Extended K) ≤ negativeInfinity :=
  Bool.false_ne_true

end Order

open Scalar (OrderedField)

variable [OrderedField K]

private theorem isNumber_all (value : Extended K) : Scalar.isNumber value := by
  cases value with
  | negativeInfinity | infinity => rfl
  | number value => exact OrderedField.isNumber value

instance : Scalar.Total (Extended K) where
  le_trans {a b c} left right := by
    cases a <;> cases b <;> cases c <;> simp at *
    exact OrderedField.le_trans left right
  le_total {a b} _ _ := by
    cases a <;> cases b <;> simp
    exact OrderedField.le_total _ _
  isNumber_of_le _ := ⟨isNumber_all _, isNumber_all _⟩
  lt_iff {a b} := by
    cases a <;> cases b
    case number.number => simp [number_lt_number, OrderedField.lt_iff]
    all_goals simp [LT.lt, LE.le, lt, le]
  le_infinity _ := le_infinity _
  neg_infinity_le _ := negativeInfinity_le _
  isNumber_ofInt _ := isNumber_all _
  isNumber_of_sub _ := ⟨isNumber_all _, isNumber_all _⟩
  isNumber := isNumber_all
  le_antisymm {a b} left right := by
    cases a <;> cases b <;> simp at *
    exact OrderedField.le_antisymm left right

/-! ### Arithmetic with numbers -/

section Numbers

variable (a b : K)

omit [OrderedField K] in
theorem lesser_number :
    Scalar.lesser (number a) (number b) = number (Scalar.lesser a b) := by
  unfold Scalar.lesser
  rw [apply_ite number, apply_ite number]
  simp only [number_lt_number]
  rfl

omit [OrderedField K] in
theorem greater_number :
    Scalar.greater (number a) (number b) = number (Scalar.greater a b) := by
  unfold Scalar.greater
  rw [apply_ite number, apply_ite number]
  simp only [number_lt_number]
  rfl

theorem number_sub_number : number a - number b = number (a - b) :=
  congrArg number (Scalar.Exact.sub_eq_add_neg a b).symm

omit [OrderedField K] in
@[simp] theorem ofInt_eq (value : Int) :
    (Scalar.ofInt value : Extended K) = number (Scalar.ofInt value) := rfl

omit [OrderedField K] in
theorem number_mul_number : number a * number b = number (a * b) := rfl

theorem greater_sub_zero : Scalar.greater (number a - number b) (Scalar.ofInt 0) =
    number (if b ≤ a then a - b else Scalar.ofInt 0) := by
  rw [number_sub_number, ofInt_eq, greater_number, OrderedField.greater_sub_zero]

end Numbers

/-! ### Rounding -/

section Rounding

variable (places? : Option Nat)

omit [OrderedField K] in
@[simp] theorem roundTo_number (value : K) :
    Scalar.roundTo (number value) places? = number (Scalar.roundTo value places?) := by
  cases places? <;> rfl

private theorem times_scale (value : Extended K) (places : Nat) :
    value.times (Scalar.ofInt (Nat.pow 10 (min places 15))) = value :=
  if_pos (Scalar.zero_lt_scale places)

@[simp] theorem roundTo_infinity :
    Scalar.roundTo (infinity : Extended K) places? = infinity := by
  cases places? with
  | none => rfl
  | some places =>
      have scaled := times_scale (infinity : Extended K) places
      change (map Scalar.roundToInteger (infinity.times _)).div (number _) = infinity
      rw [scaled]
      exact scaled

@[simp] theorem roundTo_negativeInfinity :
    Scalar.roundTo (negativeInfinity : Extended K) places? = negativeInfinity := by
  cases places? with
  | none => rfl
  | some places =>
      have scaled := times_scale (negativeInfinity : Extended K) places
      change (map Scalar.roundToInteger (negativeInfinity.times _)).div (number _) =
        negativeInfinity
      rw [scaled]
      exact scaled

variable [Scalar.RoundsHalfAway K]

theorem roundTo_mono {first second : Extended K} (le : first ≤ second) :
    Scalar.roundTo first places? ≤ Scalar.roundTo second places? := by
  cases first <;> cases second <;> simp at *
  exact Scalar.roundTo_mono places? le

theorem roundTo_roundTo (value : Extended K) :
    Scalar.roundTo (Scalar.roundTo value places?) places? = Scalar.roundTo value places? := by
  cases value <;> simp
  exact Scalar.roundTo_roundTo places? _

end Rounding

end Extended

end PdfElements
