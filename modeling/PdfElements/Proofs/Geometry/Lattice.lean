import PdfElements.Proofs.Arithmetic.Extended
import PdfElements.Proofs.Geometry.Inclusion

/-! Rectangles form a lattice. Over exact numbers inclusion is a partial order, of which unions are
the least upper bounds and intersections the greatest lower ones, where there are any. The rectangle
without points, whose bounds are infinite and inverted, lies within all others. -/

set_option autoImplicit false

namespace PdfElements

open Scalar (Ordered OrderedField Total)

def Point.extended {K : Type} (point : Point K) : Point (Extended K) :=
  ⟨.number point.x, .number point.y⟩

namespace Rect

structure Upright {K : Type} [Scalar K] (rect : Rect K) : Prop where
  horizontal : rect.minX ≤ rect.maxX
  vertical : rect.minY ≤ rect.maxY

theorem upright_iff {K : Type} [Scalar K] {rect : Rect K} :
    rect.Upright ↔ rect.minX ≤ rect.maxX ∧ rect.minY ≤ rect.maxY :=
  ⟨fun upright => ⟨upright.horizontal, upright.vertical⟩, fun ⟨horizontal, vertical⟩ =>
    ⟨horizontal, vertical⟩⟩

/-! ### Inclusion and bounds -/

section Order

variable {K : Type} [Scalar K] [Total K] {first second third outer inner : Rect K}

theorem numeric (rect : Rect K) : rect.Numeric :=
  ⟨Total.isNumber _, Total.isNumber _, Total.isNumber _, Total.isNumber _⟩

theorem isEmpty_eq_false_iff {rect : Rect K} : rect.isEmpty = false ↔ rect.Upright := by
  simp only [isEmpty, Bool.or_eq_false_iff, decide_eq_false_iff_not, Total.not_lt, upright_iff]

theorem Upright.of_contains (upright : inner.Upright) (contained : outer.contains inner) :
    outer.Upright := by
  obtain ⟨minX, maxX, minY, maxY⟩ := contains_iff.mp contained
  exact ⟨Ordered.le_trans minX (Ordered.le_trans upright.horizontal maxX),
    Ordered.le_trans minY (Ordered.le_trans upright.vertical maxY)⟩

theorem contains_antisymm (left : first.contains second) (right : second.contains first) :
    first = second := by
  obtain ⟨minX, maxX, minY, maxY⟩ := contains_iff.mp left
  obtain ⟨minX', maxX', minY', maxY'⟩ := contains_iff.mp right
  cases first
  cases second
  simp only [mk.injEq]
  exact ⟨Total.le_antisymm minX minX', Total.le_antisymm minY minY', Total.le_antisymm maxX' maxX,
    Total.le_antisymm maxY' maxY⟩

theorem eq_of_contains_iff (same : ∀ outer : Rect K, outer.contains first ↔ outer.contains second) :
    first = second :=
  contains_antisymm ((same first).mp (contains_refl (numeric first)))
    ((same second).mpr (contains_refl (numeric second)))

/-! ### Unions -/

theorem contains_union_iff :
    outer.contains (first.union second) ↔ outer.contains first ∧ outer.contains second := by
  simp only [contains_iff, union, Total.le_lesser_iff, Total.greater_le_iff]
  tauto

theorem union_contains : (first.union second).contains first ∧ (first.union second).contains second :=
  contains_union_iff.mp (contains_refl (numeric _))

theorem contains_iff_union_eq : first.contains second ↔ first.union second = first := by
  constructor
  · intro contained
    exact contains_antisymm union_contains.1
      (contains_union_iff.mpr ⟨contains_refl (numeric first), contained⟩)
  · intro same
    exact same ▸ union_contains.2

theorem empty_union : empty.union first = first := by
  refine eq_of_contains_iff fun outer => ?_
  rw [contains_union_iff, and_iff_right (contains_empty (numeric outer))]

theorem union_comm : first.union second = second.union first := by
  refine eq_of_contains_iff fun outer => ?_
  rw [contains_union_iff, contains_union_iff, and_comm]

theorem union_assoc : (first.union second).union third = first.union (second.union third) := by
  refine eq_of_contains_iff fun outer => ?_
  simp only [contains_union_iff, and_assoc]

theorem union_self : first.union first = first :=
  contains_iff_union_eq.mp (contains_refl (numeric first))

/-! ### Rectangles around points -/

def ofPoint {K : Type} (point : Point K) : Rect K := ⟨point.x, point.y, point.x, point.y⟩

theorem contains_ofPoints_iff {points : List (Point K)} :
    outer.contains (ofPoints points) ↔ ∀ point ∈ points, outer.containsPoint point :=
  (numeric outer).contains_ofPoints_iff fun _ _ => ⟨Total.isNumber _, Total.isNumber _⟩

/-! ### Intersections -/

theorem common_contains_iff :
    (first.common second).contains inner ↔ first.contains inner ∧ second.contains inner := by
  simp only [contains_iff, common, Total.le_lesser_iff, Total.greater_le_iff]
  tauto

theorem intersection?_eq_some_iff : first.intersection? second = some inner ↔
    inner.Upright ∧ inner = first.common second := by
  rw [intersection?_eq, ← isEmpty_eq_false_iff]
  constructor
  · intro found
    split at found
    · cases found
    · next full =>
        cases found
        exact ⟨Bool.eq_false_of_not_eq_true full, rfl⟩
  · rintro ⟨full, rfl⟩
    rw [full, if_neg Bool.false_ne_true]

theorem intersection?_eq_none_iff_common :
    first.intersection? second = none ↔ ¬(first.common second).Upright := by
  rw [intersection?_eq, ← isEmpty_eq_false_iff]
  split <;> simp_all

/-- Two rectangles have no intersection when none with bounds in order lies within both. -/
theorem intersection?_eq_none_iff : first.intersection? second = none ↔
    ∀ inner : Rect K, first.contains inner → second.contains inner → ¬inner.Upright := by
  rw [Option.eq_none_iff_forall_ne_some]
  constructor
  · intro none inner left right upright
    have contained := common_contains_iff.mpr ⟨left, right⟩
    exact none _ (intersection?_eq_some_iff.mpr ⟨upright.of_contains contained, rfl⟩)
  · intro none inner found
    obtain ⟨upright, rfl⟩ := intersection?_eq_some_iff.mp found
    obtain ⟨left, right⟩ := common_contains_iff.mp (contains_refl (numeric (first.common second)))
    exact none _ left right upright

theorem upright_common_iff (left : first.Upright) (right : second.Upright) :
    (first.common second).Upright ↔ first.overlaps second := by
  simp only [upright_iff, common, Total.le_lesser_iff, Total.greater_le_iff, overlaps,
    overlapsHorizontally, overlapsVertically, Bool.and_eq_true, decide_eq_true_eq, left.horizontal,
    left.vertical, right.horizontal, right.vertical]
  tauto

end Order

/-! ### Rectangles with finite bounds -/

section Proper

variable {K : Type} [Scalar K]

open Extended (number)

/-- A rectangle of points, with finite bounds in order, or the one without points. -/
inductive Proper : Rect (Extended K) → Prop where
  | empty : Proper Rect.empty
  | finite {minX minY maxX maxY : K} : minX ≤ maxX → minY ≤ maxY →
      Proper ⟨number minX, number minY, number maxX, number maxY⟩

variable {first second rect : Rect (Extended K)}

theorem not_upright_empty : ¬(Rect.empty : Rect (Extended K)).Upright :=
  fun upright => Extended.not_infinity_le_negativeInfinity upright.horizontal

theorem Proper.eq_empty_or_upright (proper : rect.Proper) : rect = Rect.empty ∨ rect.Upright := by
  cases proper with
  | empty => exact .inl rfl
  | finite horizontal vertical =>
      exact .inr ⟨Extended.number_le_number.mpr horizontal, Extended.number_le_number.mpr vertical⟩

theorem Proper.not_overlaps_empty (proper : rect.Proper) :
    Rect.empty.overlaps rect = false ∧ rect.overlaps .empty = false := by
  cases proper with
  | empty => exact ⟨rfl, rfl⟩
  | finite => exact ⟨rfl, rfl⟩

variable [OrderedField K]

theorem Proper.union (left : first.Proper) (right : second.Proper) :
    (first.union second).Proper := by
  cases left with
  | empty => rwa [empty_union]
  | finite horizontal vertical =>
      cases right with
      | empty =>
          rw [union_comm, empty_union]
          exact .finite horizontal vertical
      | finite horizontal' vertical' =>
          have spans {least greatest other another : K} (le : least ≤ greatest) :
              Scalar.lesser least other ≤ Scalar.greater greatest another :=
            Ordered.le_trans (Ordered.lesser_le_left (OrderedField.isNumber _))
              (Ordered.le_trans le (Ordered.left_le_greater (OrderedField.isNumber _)))
          simp only [Rect.union, Extended.lesser_number, Extended.greater_number]
          exact .finite (spans horizontal) (spans vertical)

theorem Proper.ofPoints (points : List (Point K)) :
    (ofPoints (points.map Point.extended)).Proper := by
  suffices added : ∀ rect : Rect (Extended K), rect.Proper →
      ((points.map Point.extended).foldl addPoint rect).Proper from added _ .empty
  induction points with
  | nil => exact fun _ proper => proper
  | cons point rest ih =>
      intro rect proper
      have single : (ofPoint point.extended).Proper :=
        .finite (Ordered.le_refl (OrderedField.isNumber _))
          (Ordered.le_refl (OrderedField.isNumber _))
      exact ih _ (proper.union single)

theorem Proper.of_intersection? (left : first.Proper) (right : second.Proper)
    (found : first.intersection? second = some rect) : rect.Proper := by
  obtain ⟨upright, rfl⟩ := intersection?_eq_some_iff.mp found
  obtain ⟨within, withinOther⟩ :=
    common_contains_iff.mp (contains_refl (numeric (first.common second)))
  cases left with
  | empty => exact absurd (upright.of_contains within) not_upright_empty
  | finite =>
      cases right with
      | empty => exact absurd (upright.of_contains withinOther) not_upright_empty
      | finite =>
          simp only [common, Extended.lesser_number, Extended.greater_number] at upright ⊢
          exact .finite (Extended.number_le_number.mp upright.horizontal)
            (Extended.number_le_number.mp upright.vertical)

theorem Proper.intersection?_eq_none_iff_overlaps (left : first.Proper) (right : second.Proper) :
    first.intersection? second = none ↔ first.overlaps second = false := by
  have within := common_contains_iff.mp (contains_refl (numeric (first.common second)))
  rw [intersection?_eq_none_iff_common]
  rcases left.eq_empty_or_upright with rfl | leftUpright
  · simp only [right.not_overlaps_empty.1, iff_true]
    exact fun upright => not_upright_empty (upright.of_contains within.1)
  rcases right.eq_empty_or_upright with rfl | rightUpright
  · simp only [left.not_overlaps_empty.2, iff_true]
    exact fun upright => not_upright_empty (upright.of_contains within.2)
  · rw [upright_common_iff leftUpright rightUpright, Bool.not_eq_true]

theorem area_between (minX minY maxX maxY : K) :
    let rect : Rect (Extended K) := ⟨number minX, number minY, number maxX, number maxY⟩
    number ((if minX ≤ maxX then maxX - minX else Scalar.ofInt 0) *
        (if minY ≤ maxY then maxY - minY else Scalar.ofInt 0)) =
      ((if rect.isEmpty then none else some rect).map area).getD (Scalar.ofInt 0) := by
  intro rect
  by_cases upright : rect.Upright
  · have full := isEmpty_eq_false_iff.mpr upright
    rw [if_pos (Extended.number_le_number.mp upright.horizontal),
      if_pos (Extended.number_le_number.mp upright.vertical), full]
    simp only [Bool.false_eq_true, if_false, Option.map_some, Option.getD_some, area, full, width,
      height, rect, Extended.number_sub_number, Extended.number_mul_number]
  · have missing : rect.isEmpty = true := by
      rwa [← Bool.not_eq_false, isEmpty_eq_false_iff]
    rw [missing, if_pos rfl]
    rw [upright_iff, not_and_or, Extended.number_le_number, Extended.number_le_number] at upright
    rcases upright with inverted | inverted
    · rw [if_neg inverted, Scalar.Exact.zero_mul]
      rfl
    · rw [if_neg inverted, Scalar.Exact.mul_comm, Scalar.Exact.zero_mul]
      rfl

theorem Proper.overlap_mul (left : first.Proper) (right : second.Proper)
    (leftFull : first.isEmpty = false) (rightFull : second.isEmpty = false) :
    first.horizontalOverlap second * first.verticalOverlap second =
      ((first.intersection? second).map area).getD (Scalar.ofInt 0) := by
  cases left with
  | empty => exact absurd (isEmpty_eq_false_iff.mp leftFull) not_upright_empty
  | finite =>
      cases right with
      | empty => exact absurd (isEmpty_eq_false_iff.mp rightFull) not_upright_empty
      | finite =>
          rw [intersection?_eq]
          simp only [horizontalOverlap, verticalOverlap, common, Extended.lesser_number,
            Extended.greater_number, Extended.greater_sub_zero, Extended.number_mul_number]
          exact area_between _ _ _ _

def IsLeast (holds : Rect (Extended K) → Prop) (rect : Rect (Extended K)) : Prop :=
  rect.Proper ∧ holds rect ∧ ∀ other, other.Proper → holds other → other.contains rect

def IsGreatest (holds : Rect (Extended K) → Prop) (rect : Rect (Extended K)) : Prop :=
  rect.Proper ∧ holds rect ∧ ∀ other, other.Proper → holds other → rect.contains other

end Proper

/-- The operations on proper rectangles are those of one lattice, up to the missing intersections,
and agree on which rectangles have points in common. -/
structure FormLattice (K : Type) [Scalar K] : Prop where
  contains_refl {a : Rect (Extended K)} : a.Proper → a.contains a
  contains_trans {a b c : Rect (Extended K)} : a.Proper → b.Proper → c.Proper →
    a.contains b → b.contains c → a.contains c
  contains_antisymm {a b : Rect (Extended K)} : a.Proper → b.Proper →
    a.contains b → b.contains a → a = b
  contains_iff_union {a b : Rect (Extended K)} : a.Proper → b.Proper →
    (a.contains b ↔ a.union b = a)
  union_least {a b : Rect (Extended K)} : a.Proper → b.Proper →
    IsLeast (fun rect => rect.contains a ∧ rect.contains b) (a.union b)
  empty_union {a : Rect (Extended K)} : a.Proper → empty.union a = a ∧ a.union empty = a
  union_assoc {a b c : Rect (Extended K)} : a.Proper → b.Proper → c.Proper →
    (a.union b).union c = a.union (b.union c)
  union_comm {a b : Rect (Extended K)} : a.Proper → b.Proper → a.union b = b.union a
  union_self {a : Rect (Extended K)} : a.Proper → a.union a = a
  ofPoints_least (points : List (Point K)) :
    IsLeast (fun rect => ∀ point ∈ points, rect.containsPoint point.extended)
      (ofPoints (points.map Point.extended))
  intersection_greatest {a b common : Rect (Extended K)} : a.Proper → b.Proper →
    a.intersection? b = some common →
      IsGreatest (fun rect => a.contains rect ∧ b.contains rect) common
  intersection_none {a b : Rect (Extended K)} : a.Proper → b.Proper →
    (a.intersection? b = none ↔
      ∀ rect : Rect (Extended K), rect.Proper → a.contains rect → b.contains rect → rect.isEmpty)
  overlaps_none {a b : Rect (Extended K)} : a.Proper → b.Proper →
    (a.intersection? b = none ↔ a.overlaps b = false)
  overlap_area {a b : Rect (Extended K)} : a.Proper → b.Proper →
    a.isEmpty = false → b.isEmpty = false →
      a.horizontalOverlap b * a.verticalOverlap b =
        ((a.intersection? b).map area).getD (Scalar.ofInt 0)

/-- Union, intersection, inclusion, overlaps and the rectangles around points describe one
lattice. -/
theorem rectangles_form_lattice (K : Type) [Scalar K] [OrderedField K] : FormLattice K where
  contains_refl _ := Rect.contains_refl (numeric _)
  contains_trans _ _ _ := Rect.contains_trans
  contains_antisymm _ _ := Rect.contains_antisymm
  contains_iff_union _ _ := contains_iff_union_eq
  union_least left right :=
    ⟨left.union right, union_contains, fun _ _ around => contains_union_iff.mpr around⟩
  empty_union _ := ⟨Rect.empty_union, union_comm.trans Rect.empty_union⟩
  union_assoc _ _ _ := Rect.union_assoc
  union_comm _ _ := Rect.union_comm
  union_self _ := Rect.union_self
  ofPoints_least points := by
    refine ⟨.ofPoints points, ?_, fun other _ around => ?_⟩
    · exact List.forall_mem_map.mp (contains_ofPoints_iff.mp (Rect.contains_refl (numeric _)))
    · exact contains_ofPoints_iff.mpr (List.forall_mem_map.mpr around)
  intersection_greatest left right found := by
    refine ⟨left.of_intersection? right found, ?_⟩
    obtain ⟨_, rfl⟩ := intersection?_eq_some_iff.mp found
    exact ⟨common_contains_iff.mp (Rect.contains_refl (numeric _)),
      fun other _ within => common_contains_iff.mpr within⟩
  intersection_none {a b} left right := by
    constructor
    · intro missing rect _ within withinOther
      rw [← Bool.not_eq_false, isEmpty_eq_false_iff]
      exact intersection?_eq_none_iff.mp missing rect within withinOther
    · intro allEmpty
      refine Option.eq_none_iff_forall_ne_some.mpr fun rect found => ?_
      have proper := left.of_intersection? right found
      obtain ⟨upright, rfl⟩ := intersection?_eq_some_iff.mp found
      obtain ⟨within, withinOther⟩ :=
        common_contains_iff.mp (Rect.contains_refl (numeric (a.common b)))
      have empty := allEmpty _ proper within withinOther
      rw [isEmpty_eq_false_iff.mpr upright] at empty
      cases empty
  overlaps_none left right := left.intersection?_eq_none_iff_overlaps right
  overlap_area left right := left.overlap_mul right

/-- Squares that touch have an edge in common, which has no area. -/
theorem touching_squares_share_edge :
    let left : Rect (Extended ℚ) := ⟨.number 0, .number 0, .number 1, .number 1⟩
    let right : Rect (Extended ℚ) := ⟨.number 1, .number 0, .number 2, .number 1⟩
    let edge : Rect (Extended ℚ) := ⟨.number 1, .number 0, .number 1, .number 1⟩
    left.intersection? right = some edge ∧
      IsGreatest (fun rect => left.contains rect ∧ right.contains rect) edge ∧
      left.overlaps right ∧ left.horizontalOverlap right * left.verticalOverlap right = edge.area ∧
      edge.area = .number 0 := by
  intro left right edge
  have lattice := rectangles_form_lattice ℚ
  have leftProper : left.Proper := .finite (by decide) (by decide)
  have rightProper : right.Proper := .finite (by decide) (by decide)
  have found : left.intersection? right = some edge := by decide +kernel
  have area := lattice.overlap_area leftProper rightProper (by decide +kernel) (by decide +kernel)
  rw [found] at area
  exact ⟨found, lattice.intersection_greatest leftProper rightProper found, by decide +kernel, area,
    by decide +kernel⟩

end Rect

end PdfElements
