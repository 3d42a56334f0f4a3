import Mathlib.Algebra.Ring.MinimalAxioms
import Mathlib.Tactic.Ring
import PdfElements.Geometry.Matrix

/-! Arithmetic without rounding. What holds of geometry over an exact type needs no more than the
laws of a field, which the operations of such a type keep. -/

set_option autoImplicit false

namespace PdfElements

/-- The operations keep the laws of a field, with the integers as what they are. -/
class Scalar.Exact (K : Type) [Scalar K] : Prop where
  add_assoc (a b c : K) : a + b + c = a + (b + c)
  zero_add (a : K) : ofInt 0 + a = a
  neg_add_cancel (a : K) : -a + a = ofInt 0
  sub_eq_add_neg (a b : K) : a - b = a + -b
  mul_assoc (a b c : K) : a * b * c = a * (b * c)
  mul_comm (a b : K) : a * b = b * a
  one_mul (a : K) : ofInt 1 * a = a
  mul_add (a b c : K) : a * (b + c) = a * b + a * c
  div_mul_cancel (a : K) {b : K} : b ≠ ofInt 0 → a / b * b = a
  ofInt_add (m n : Int) : (ofInt (m + n) : K) = ofInt m + ofInt n
  ofInt_mul (m n : Int) : (ofInt (m * n) : K) = ofInt m * ofInt n

namespace Scalar.Exact

variable {K : Type} [Scalar K] [Exact K]

abbrev commRing (K : Type) [Scalar K] [Exact K] : CommRing K :=
  letI : Zero K := ⟨ofInt 0⟩
  letI : One K := ⟨ofInt 1⟩
  .ofMinimalAxioms add_assoc zero_add neg_add_cancel mul_assoc mul_comm one_mul mul_add

theorem add_comm (a b : K) : a + b = b + a :=
  letI := commRing K
  AddCommMagma.add_comm a b

@[simp] theorem add_zero (a : K) : a + ofInt 0 = a :=
  (add_comm a _).trans (zero_add a)

@[simp] theorem zero_mul (a : K) : ofInt 0 * a = ofInt 0 :=
  letI := commRing K
  MulZeroClass.zero_mul a

end Scalar.Exact

attribute [simp] Scalar.Exact.zero_add Scalar.Exact.one_mul

namespace Matrix

variable {K : Type} [Scalar K] [Scalar.Exact K]

@[simp] theorem translation_zero_concat (matrix : Matrix K) :
    (translation (Scalar.ofInt 0) (Scalar.ofInt 0)).concat matrix = matrix := by
  simp [translation, concat]

theorem translation_concat_translation_concat (further distance : K) (matrix : Matrix K) :
    (translation further (Scalar.ofInt 0)).concat
        ((translation distance (Scalar.ofInt 0)).concat matrix) =
      (translation (distance + further) (Scalar.ofInt 0)).concat matrix := by
  have joined (slope offset : K) :
      further * slope + (distance * slope + offset) = (distance + further) * slope + offset := by
    let _ := Scalar.Exact.commRing K
    ring
  simp [translation, concat, joined]

end Matrix

end PdfElements
