import PdfElements.Extraction
import PdfElements.Proofs.Arithmetic.Order

/-! When a rectangle lies within another one. This is transitive, a rectangle whose bounds are
numbers lies within itself, and clipping it only takes points away. The boxes of pages are such
rectangles, and so is the least rectangle around points whose coordinates are numbers. -/

set_option autoImplicit false

namespace PdfElements

open Scalar (Ordered Limited)

structure Point.Numeric {K : Type} [Scalar K] (point : Point K) : Prop where
  x : Scalar.isNumber point.x
  y : Scalar.isNumber point.y

instance {K : Type} [Scalar K] (point : Point K) : Decidable point.Numeric :=
  decidable_of_iff (Scalar.isNumber point.x ∧ Scalar.isNumber point.y)
    ⟨fun ⟨x, y⟩ => ⟨x, y⟩, fun numbers => ⟨numbers.x, numbers.y⟩⟩

namespace Rect

variable {K : Type} [Scalar K]

structure Numeric (rect : Rect K) : Prop where
  minX : Scalar.isNumber rect.minX
  minY : Scalar.isNumber rect.minY
  maxX : Scalar.isNumber rect.maxX
  maxY : Scalar.isNumber rect.maxY

theorem contains_iff {outer inner : Rect K} :
    outer.contains inner ↔ outer.minX ≤ inner.minX ∧ inner.maxX ≤ outer.maxX ∧
      outer.minY ≤ inner.minY ∧ inner.maxY ≤ outer.maxY := by
  simp only [contains, Bool.and_eq_true, decide_eq_true_eq, and_assoc]

/-- The bounds that two rectangles have in common, inverted where they have no points in common. -/
def common (first second : Rect K) : Rect K where
  minX := Scalar.greater first.minX second.minX
  minY := Scalar.greater first.minY second.minY
  maxX := Scalar.lesser first.maxX second.maxX
  maxY := Scalar.lesser first.maxY second.maxY

theorem intersection?_eq (first second : Rect K) :
    first.intersection? second =
      if (first.common second).isEmpty then none else some (first.common second) := rfl

section Ordered

variable [Ordered K] {first second outer inner : Rect K}

theorem contains_refl (numeric : first.Numeric) : first.contains first :=
  contains_iff.mpr ⟨Ordered.le_refl numeric.minX, Ordered.le_refl numeric.maxX,
    Ordered.le_refl numeric.minY, Ordered.le_refl numeric.maxY⟩

theorem contains_trans (left : outer.contains first) (right : first.contains inner) :
    outer.contains inner := by
  obtain ⟨minX, maxX, minY, maxY⟩ := contains_iff.mp left
  obtain ⟨minX', maxX', minY', maxY'⟩ := contains_iff.mp right
  exact contains_iff.mpr ⟨Ordered.le_trans minX minX', Ordered.le_trans maxX' maxX,
    Ordered.le_trans minY minY', Ordered.le_trans maxY' maxY⟩

theorem Numeric.of_contains (contained : outer.contains inner) : inner.Numeric := by
  obtain ⟨minX, maxX, minY, maxY⟩ := contains_iff.mp contained
  exact ⟨(Ordered.isNumber_of_le minX).2, (Ordered.isNumber_of_le minY).2,
    (Ordered.isNumber_of_le maxX).1, (Ordered.isNumber_of_le maxY).1⟩

theorem contains_common (numeric : first.Numeric) : first.contains (first.common second) :=
  contains_iff.mpr ⟨Ordered.left_le_greater numeric.minX, Ordered.lesser_le_left numeric.maxX,
    Ordered.left_le_greater numeric.minY, Ordered.lesser_le_left numeric.maxY⟩

variable [Limited K]

omit [Ordered K] in
theorem contains_empty (numeric : first.Numeric) : first.contains empty :=
  contains_iff.mpr ⟨Limited.le_infinity numeric.minX,
    Limited.neg_infinity_le numeric.maxX, Limited.le_infinity numeric.minY,
    Limited.neg_infinity_le numeric.maxY⟩

theorem contains_clipped (numeric : first.Numeric) (bounds? : Option (Rect K)) :
    first.contains (GraphicsState.clipped first bounds?) := by
  cases bounds? with
  | none => exact contains_refl numeric
  | some bounds =>
      simp only [GraphicsState.clipped, intersection?_eq]
      split
      · exact contains_empty numeric
      · exact contains_common numeric

end Ordered

/-! ### Rectangles around points -/

/-- A rectangle around points that lies within all others around them. -/
def IsLeastAround (points : List (Point K)) (rect : Rect K) : Prop :=
  (∀ point ∈ points, rect.containsPoint point) ∧
    ∀ outer : Rect K, (∀ point ∈ points, outer.containsPoint point) → outer.contains rect

theorem containsPoint_iff {rect : Rect K} {point : Point K} :
    rect.containsPoint point ↔ rect.minX ≤ point.x ∧ point.x ≤ rect.maxX ∧
      rect.minY ≤ point.y ∧ point.y ≤ rect.maxY := by
  simp only [containsPoint, Bool.and_eq_true, decide_eq_true_eq, and_assoc]

section Points

variable [Ordered K] {rect outer : Rect K} {point : Point K} {points : List (Point K)}

theorem Numeric.of_containsPoint (contained : rect.containsPoint point) : rect.Numeric := by
  obtain ⟨minX, maxX, minY, maxY⟩ := containsPoint_iff.mp contained
  exact ⟨(Ordered.isNumber_of_le minX).1, (Ordered.isNumber_of_le minY).1,
    (Ordered.isNumber_of_le maxX).2, (Ordered.isNumber_of_le maxY).2⟩

theorem isEmpty_of_containsPoint (contained : rect.containsPoint point) : rect.isEmpty = false := by
  obtain ⟨minX, maxX, minY, maxY⟩ := containsPoint_iff.mp contained
  simp only [isEmpty, Bool.or_eq_false_iff, decide_eq_false_iff_not, Ordered.lt_iff]
  exact ⟨fun inverted => inverted.2 (Ordered.le_trans minX maxX),
    fun inverted => inverted.2 (Ordered.le_trans minY maxY)⟩

theorem Numeric.addPoint (numeric : rect.Numeric) (point : Point K) :
    (rect.addPoint point).Numeric :=
  ⟨(Ordered.isNumber_of_le (Ordered.lesser_le_left numeric.minX)).1,
    (Ordered.isNumber_of_le (Ordered.lesser_le_left numeric.minY)).1,
    (Ordered.isNumber_of_le (Ordered.left_le_greater numeric.maxX)).2,
    (Ordered.isNumber_of_le (Ordered.left_le_greater numeric.maxY)).2⟩

theorem contains_addPoint_iff (numeric : rect.Numeric) (numbers : point.Numeric) :
    outer.contains (rect.addPoint point) ↔ outer.contains rect ∧ outer.containsPoint point := by
  simp only [contains_iff, containsPoint_iff, Rect.addPoint,
    Ordered.le_lesser_iff numeric.minX numbers.x, Ordered.le_lesser_iff numeric.minY numbers.y,
    Ordered.greater_le_iff numeric.maxX numbers.x, Ordered.greater_le_iff numeric.maxY numbers.y]
  grind

variable [Limited K]

theorem numeric_empty : (empty : Rect K).Numeric := by
  have zero : Scalar.isNumber (Scalar.ofInt 0 : K) := Limited.isNumber_ofInt 0
  have greatest := (Ordered.isNumber_of_le (Limited.le_infinity zero)).2
  have least := (Ordered.isNumber_of_le (Limited.neg_infinity_le zero)).1
  exact ⟨greatest, greatest, least, least⟩

theorem numeric_ofPoints (points : List (Point K)) : (ofPoints points).Numeric := by
  suffices added : ∀ rect : Rect K, rect.Numeric → (points.foldl Rect.addPoint rect).Numeric from
    added empty numeric_empty
  induction points with
  | nil => exact fun _ numeric => numeric
  | cons point rest ih => exact fun _ numeric => ih _ (numeric.addPoint point)

theorem Numeric.contains_ofPoints_iff (numeric : outer.Numeric)
    (numbers : ∀ point ∈ points, point.Numeric) :
    outer.contains (ofPoints points) ↔ ∀ point ∈ points, outer.containsPoint point := by
  suffices added : ∀ rect : Rect K, rect.Numeric →
      (outer.contains (points.foldl Rect.addPoint rect) ↔
        outer.contains rect ∧ ∀ point ∈ points, outer.containsPoint point) by
    rw [ofPoints, added empty numeric_empty, and_iff_right (contains_empty numeric)]
  induction points with
  | nil => simp
  | cons point rest ih =>
      intro rect around
      obtain ⟨number, numbers⟩ := List.forall_mem_cons.mp numbers
      rw [List.foldl_cons, ih numbers _ (around.addPoint point), contains_addPoint_iff around number,
        List.forall_mem_cons, and_assoc]

theorem isLeastAround_ofPoints (member : point ∈ points)
    (numbers : ∀ point ∈ points, point.Numeric) : (ofPoints points).IsLeastAround points := by
  have numeric : (ofPoints points).Numeric := numeric_ofPoints points
  refine ⟨(numeric.contains_ofPoints_iff numbers).mp (contains_refl numeric), ?_⟩
  intro outer around
  exact (Numeric.of_containsPoint (around point member)).contains_ofPoints_iff numbers |>.mpr around

end Points

end Rect

namespace PageSource

variable {K : Type} [Scalar K] [Limited K]

theorem numeric_standardBox : (standardBox : Rect K).Numeric := by
  constructor <;> exact Limited.isNumber_ofInt _

variable [Ordered K] {store : ObjectStore} {page : ObjectId}

private theorem isNumber_of_extent {least greatest : K}
    (extent : Scalar.ofInt 0 < greatest - least) :
    Scalar.isNumber greatest ∧ Scalar.isNumber least :=
  Limited.isNumber_of_sub (Ordered.isNumber_of_le (Ordered.le_of_lt extent)).2

/-- What has an extent in both directions has numbers as bounds. -/
theorem numeric_of_box? {key : String} {box : Rect K} (found : box? store page key = some box) :
    box.Numeric := by
  unfold box? at found
  simp only [Option.bind_eq_bind, Option.bind_eq_some_iff] at found
  obtain ⟨_, _, _, _, _, _, items, _, found⟩ := found
  split at found
  · split at found
    · next extent =>
        cases found
        obtain ⟨width, height⟩ := Bool.and_eq_true_iff.mp extent
        obtain ⟨maxX, minX⟩ := isNumber_of_extent (of_decide_eq_true width)
        obtain ⟨maxY, minY⟩ := isNumber_of_extent (of_decide_eq_true height)
        exact ⟨minX, minY, maxX, maxY⟩
    · cases found
  · cases found

theorem numeric_sheet : (sheet (K := K) store page).1.Numeric := by
  unfold sheet
  split
  · next box found =>
      obtain ⟨key, _, found⟩ := List.exists_of_findSome?_eq_some found
      exact numeric_of_box? found
  · exact numeric_standardBox

theorem numeric_cropBox {source : PageSource K} (read : PageSource.read store page = .ok source) :
    source.cropBox.Numeric := by
  have chosen : source.cropBox =
      (box? store page "CropBox").getD (sheet store page).1 := by
    unfold PageSource.read at read
    simp only [bind, Except.bind] at read
    repeat split at read
    all_goals cases read
    rfl
  rw [chosen]
  cases found : box? (K := K) store page "CropBox" with
  | none => exact numeric_sheet
  | some box => exact numeric_of_box? found

end PageSource

theorem Interpreter.numeric_cropBox {K : Type} [Scalar K] [Ordered K] [Limited K]
    (setting : Setting) (id : ObjectId) :
    (Interpreter.readPage (K := K) setting id).1.cropBox.Numeric := by
  unfold Interpreter.readPage
  split
  · next read => exact PageSource.numeric_cropBox read
  · exact PageSource.numeric_standardBox

end PdfElements
