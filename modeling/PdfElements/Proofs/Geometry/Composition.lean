import PdfElements.Graphics.State
import PdfElements.Proofs.Arithmetic.Exact

/-! Matrices under `concat` over exact arithmetic: a monoid that acts on points, the first factor
first. Several matrices put before one another come to one product. -/

set_option autoImplicit false

namespace PdfElements

variable {K : Type} [Scalar K]

namespace Matrix

/-- The product in which later matrices come first. -/
def product (matrices : List (Matrix K)) : Matrix K :=
  matrices.foldl (fun product matrix => matrix.concat product) .identity

variable [Scalar.Exact K]

theorem concat_assoc (first second third : Matrix K) :
    (first.concat second).concat third = first.concat (second.concat third) := by
  let _ := Scalar.Exact.commRing K
  simp only [concat, mk.injEq]
  refine ⟨?_, ?_, ?_, ?_, ?_, ?_⟩ <;> ring

@[simp] theorem identity_concat (matrix : Matrix K) : identity.concat matrix = matrix := by
  simp [identity, concat]

@[simp] theorem concat_identity (matrix : Matrix K) : matrix.concat identity = matrix := by
  simp [identity, concat, Scalar.Exact.mul_comm _ (Scalar.ofInt _ : K)]

@[simp] theorem apply_identity (point : Point K) : (identity : Matrix K).apply point = point := by
  simp [identity, apply]

theorem apply_concat (first second : Matrix K) (point : Point K) :
    (first.concat second).apply point = second.apply (first.apply point) := by
  let _ := Scalar.Exact.commRing K
  simp only [concat, apply, Point.mk.injEq]
  constructor <;> ring

theorem foldl_concat (matrices : List (Matrix K)) (last : Matrix K) :
    matrices.foldl (fun product matrix => matrix.concat product) last =
      (product matrices).concat last := by
  induction matrices generalizing last with
  | nil => exact (identity_concat last).symm
  | cons matrix rest ih =>
      rw [List.foldl_cons, ih, ← concat_assoc, ← ih, product, List.foldl_cons, concat_identity]

theorem product_cons (matrix : Matrix K) (rest : List (Matrix K)) :
    product (matrix :: rest) = (product rest).concat matrix := by
  rw [product, List.foldl_cons, concat_identity, foldl_concat]

end Matrix

namespace GraphicsState

variable [Scalar.Exact K]

theorem concat_identity (state : GraphicsState K) : state.concat .identity = state := by
  rw [concat, Matrix.identity_concat]

theorem concat_concat (state : GraphicsState K) (first second : Matrix K) :
    (state.concat first).concat second = state.concat (second.concat first) := by
  simp only [concat, Matrix.concat_assoc]

end GraphicsState

end PdfElements
