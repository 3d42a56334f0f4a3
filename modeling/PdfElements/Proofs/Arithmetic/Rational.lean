import Mathlib.Algebra.Order.Field.Rat
import Mathlib.Data.Rat.Sqrt
import PdfElements.Proofs.Arithmetic.Exact

/-! Geometry over the rational numbers, which are exact and which a program can compute with. -/

set_option autoImplicit false

namespace PdfElements

/-- The rational number that a finite single stands for; zero for others. -/
def Number.rationalOfSingle (value : Float32) : ℚ :=
  match Binary.ofSingle? value with
  | none => 0
  | some number =>
    let magnitude : ℚ := number.significand * 2 ^ number.exponent
    if number.negative then -magnitude else magnitude

/-- No rational number is infinite; a bound that no page reaches stands for it. Roots are cut off
where they are no rational numbers. -/
instance : Scalar ℚ where
  ofInt value := value
  ofDecimal digits places := digits / 10 ^ places
  ofSingle := Number.rationalOfSingle
  infinity := 10 ^ 18
  magnitude value := |value|
  squareRoot := Rat.sqrt
  roundToInteger value :=
    if value < 0 then -(-value + 1 / 2).floor else (value + 1 / 2).floor
  truncate value :=
    Number.clamp (-(Nat.pow 2 63)) (Nat.pow 2 63 - 1)
      (if value < 0 then -(-value).floor else value.floor)
  toSingle value := Number.singleOfInt value.num / Number.singleOfInt value.den
  plainText := toString
  diagnosticText := toString
  jsonText := toString

instance : Scalar.Exact ℚ where
  add_assoc := add_assoc
  zero_add value := (congrArg (· + value) Int.cast_zero).trans (zero_add value)
  neg_add_cancel value := (neg_add_cancel value).trans Int.cast_zero.symm
  sub_eq_add_neg := sub_eq_add_neg
  mul_assoc := mul_assoc
  mul_comm := mul_comm
  one_mul value := (congrArg (· * value) Int.cast_one).trans (one_mul value)
  mul_add := mul_add
  div_mul_cancel value _ distinct :=
    div_mul_cancel₀ value fun zero => distinct (zero.trans Int.cast_zero.symm)
  ofInt_add := Int.cast_add
  ofInt_mul := Int.cast_mul

end PdfElements
