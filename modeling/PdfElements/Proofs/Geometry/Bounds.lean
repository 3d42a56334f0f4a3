import PdfElements.Image.Metadata
import PdfElements.Path
import PdfElements.Proofs.Geometry.Lattice

/-! Where rectangles come from. The images of rectangles, the bounds of paths and the places of
images have their bounds in order, whatever the map to device space does to axes. Rounding keeps
that order and inclusion, and moves nothing a second time. -/

set_option autoImplicit false

namespace PdfElements

namespace Rect

open Scalar (Ordered OrderedField RoundsHalfAway Total)

section Sources

variable {K : Type} [Scalar K] [Total K]

theorem upright_ofPoints {points : List (Point K)} {point : Point K} (member : point ∈ points) :
    (ofPoints points).Upright :=
  isEmpty_eq_false_iff.mp (isEmpty_of_containsPoint
    (contains_ofPoints_iff.mp (contains_refl (numeric _)) point member))

theorem upright_image (matrix : Matrix K) (left bottom right top : K) :
    (image matrix left bottom right top).Upright :=
  upright_ofPoints List.mem_cons_self

theorem upright_ofCorners (x₀ y₀ x₁ y₁ : K) : (ofCorners x₀ y₀ x₁ y₁).Upright :=
  ⟨Total.lesser_le_greater, Total.lesser_le_greater⟩

theorem upright_of_bounds? {segments : List (Segment K)} {bounds : Rect K}
    (found : Segment.bounds? segments = some bounds) : bounds.Upright := by
  unfold Segment.bounds? at found
  simp only at found
  split at found
  · cases found
  · next full =>
      cases found
      exact isEmpty_eq_false_iff.mp (Bool.eq_false_of_not_eq_true full)

end Sources

section Rounding

variable {K : Type} [Scalar K] [OrderedField K]
  {outer inner rect : Rect (Extended K)} (places? : Option Nat)

theorem rounded_of_upright (upright : rect.Upright) : rect.rounded places? =
    ⟨Scalar.roundTo rect.minX places?, Scalar.roundTo rect.minY places?,
      Scalar.roundTo rect.maxX places?, Scalar.roundTo rect.maxY places?⟩ := by
  rw [rounded, isEmpty_eq_false_iff.mpr upright, if_neg Bool.false_ne_true]

theorem rounded_of_not_upright (inverted : ¬rect.Upright) : rect.rounded places? = rect := by
  rw [← isEmpty_eq_false_iff, Bool.not_eq_false] at inverted
  rw [rounded, if_pos inverted]

variable [RoundsHalfAway K]

theorem Upright.rounded (upright : rect.Upright) : (rect.rounded places?).Upright := by
  rw [rounded_of_upright places? upright]
  exact ⟨Extended.roundTo_mono places? upright.horizontal,
    Extended.roundTo_mono places? upright.vertical⟩

theorem rounded_rounded (rect : Rect (Extended K)) :
    (rect.rounded places?).rounded places? = rect.rounded places? := by
  by_cases upright : rect.Upright
  · rw [rounded_of_upright places? (upright.rounded places?), rounded_of_upright places? upright]
    simp only [Extended.roundTo_roundTo]
  · rw [rounded_of_not_upright places? upright, rounded_of_not_upright places? upright]

theorem contains_rounded (contained : outer.contains inner)
    (regular : inner = empty ∨ inner.Upright) :
    (outer.rounded places?).contains (inner.rounded places?) := by
  rcases regular with rfl | upright
  · rw [rounded_of_not_upright places? not_upright_empty]
    exact contains_empty (numeric _)
  · obtain ⟨minX, maxX, minY, maxY⟩ := contains_iff.mp contained
    rw [rounded_of_upright places? upright,
      rounded_of_upright places? (upright.of_contains contained), contains_iff]
    exact ⟨Extended.roundTo_mono places? minX, Extended.roundTo_mono places? maxX,
      Extended.roundTo_mono places? minY, Extended.roundTo_mono places? maxY⟩

end Rounding

end Rect

end PdfElements
