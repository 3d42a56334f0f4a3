import PdfElements.Path
import PdfElements.Proofs.Arithmetic.Double
import PdfElements.Proofs.Geometry.Inclusion

/-! Paths while they are drawn. Beside its segments a path keeps where its pen is and where the
current subpath began. Whatever is drawn, under matrices that may change in between, both are where
the segments lead that were stored since the path was last taken. What is stored stays, and its
bounds are the least rectangle around its points. -/

set_option autoImplicit false

namespace PdfElements

variable {K : Type}

/-! ### Following segments -/

/-- Where a pen is and where its subpath began. -/
structure Pen (K : Type) where
  current? : Option (Point K)
  start? : Option (Point K)

def Segment.goesOn : Segment K → Bool
  | .move _ | .line _ => false
  | .curve .. | .close => true

namespace Pen

def lifted : Pen K := ⟨none, none⟩

/-- Closing takes the pen back to where its subpath began, or nowhere if none was begun. -/
def follow (pen : Pen K) : Segment K → Pen K
  | .move target => ⟨some target, some target⟩
  | .line target | .curve _ _ target => { pen with current? := some target }
  | .close => { pen with current? := pen.start? }

def behind (segments : List (Segment K)) : Pen K := segments.foldl follow lifted

/-- Segments that go on from the pen find it somewhere. -/
def Allows (pen : Pen K) : List (Segment K) → Prop
  | [] => True
  | segment :: rest => (segment.goesOn → pen.current?.isSome) ∧ (pen.follow segment).Allows rest

variable {pen : Pen K} {before after : List (Segment K)}

theorem behind_append : behind (before ++ after) = after.foldl follow (behind before) :=
  List.foldl_append

theorem allows_append :
    pen.Allows (before ++ after) ↔ pen.Allows before ∧ (before.foldl follow pen).Allows after := by
  induction before generalizing pen with
  | nil => simp [Allows]
  | cons segment rest ih =>
      rw [List.cons_append, Allows, Allows, ih, List.foldl_cons, and_assoc]

theorem Allows.isSome_current? {segment : Segment K}
    (allowed : lifted.Allows (before ++ segment :: after)) (goesOn : segment.goesOn) :
    (behind before).current?.isSome :=
  (allows_append.mp allowed).2.1 goesOn

end Pen

namespace Path

variable {path : Path K} {segments : List (Segment K)}

def pen (path : Path K) : Pen K := ⟨path.current?, path.start?⟩

def append (path : Path K) (segment : Segment K) : Path K :=
  let pen := path.pen.follow segment
  ⟨path.segments.push segment, pen.current?, pen.start?⟩

def extend (path : Path K) (segments : List (Segment K)) : Path K := segments.foldl append path

theorem extend_cons {segment : Segment K} :
    path.extend (segment :: segments) = (path.append segment).extend segments := rfl

theorem toList_append {segment : Segment K} :
    (path.append segment).segments.toList = path.segments.toList ++ [segment] :=
  Array.toList_push

theorem toList_extend :
    (path.extend segments).segments.toList = path.segments.toList ++ segments := by
  induction segments generalizing path with
  | nil => exact (List.append_nil _).symm
  | cons segment rest ih =>
      rw [extend_cons, ih, toList_append, List.append_assoc, List.singleton_append]

theorem pen_extend : (path.extend segments).pen = segments.foldl Pen.follow path.pen := by
  induction segments generalizing path with
  | nil => rfl
  | cons segment rest ih => exact ih

/-- The pen is where the segments lead, and those that went on from it found it somewhere. -/
structure Traced (path : Path K) : Prop where
  pen : path.pen = .behind path.segments.toList
  allowed : Pen.lifted.Allows path.segments.toList

theorem traced_empty : (empty : Path K).Traced := ⟨rfl, trivial⟩

theorem Traced.extend (traced : path.Traced) (allowed : path.pen.Allows segments) :
    (path.extend segments).Traced := by
  rw [traced.pen] at allowed
  constructor
  · rw [pen_extend, toList_extend, traced.pen, Pen.behind_append]
  · rw [toList_extend, Pen.allows_append]
    exact ⟨traced.allowed, allowed⟩

end Path

/-! ### Drawing -/

/-- A path under construction and the matrix in force. -/
structure Draft (K : Type) where
  path : Path K
  matrix : Matrix K

namespace Draft

inductive Step (K : Type) where
  | setMatrix (matrix : Matrix K)
  | move (target : Point K)
  | line (target : Point K)
  | curve (control₁ control₂ target : Point K)
  | curveFromCurrent (control₂ target : Point K)
  | curveToTarget (control₁ target : Point K)
  | close
  | rectangle (x y width height : K)
  | take

variable {draft : Draft K}

def new (matrix : Matrix K) : Draft K := ⟨.empty, matrix⟩

def segments (draft : Draft K) : List (Segment K) := draft.path.segments.toList

def points (draft : Draft K) : List (Point K) := draft.segments.flatMap Segment.points

variable [Scalar K]

/-- Taking hands over the path and leaves an empty one. -/
def step (draft : Draft K) : Step K → Draft K
  | .setMatrix matrix => { draft with matrix }
  | .move target => { draft with path := draft.path.move draft.matrix target }
  | .line target => { draft with path := draft.path.line draft.matrix target }
  | .curve control₁ control₂ target =>
    { draft with path := draft.path.curve draft.matrix control₁ control₂ target }
  | .curveFromCurrent control₂ target =>
    { draft with path := draft.path.curveFromCurrent draft.matrix control₂ target }
  | .curveToTarget control₁ target =>
    { draft with path := draft.path.curveToTarget draft.matrix control₁ target }
  | .close => { draft with path := draft.path.close }
  | .rectangle x y width height =>
    { draft with path := draft.path.rectangle draft.matrix x y width height }
  | .take => { draft with path := .empty }

def run (draft : Draft K) (steps : List (Step K)) : Draft K := steps.foldl step draft

/-- The segments that a step stores under a matrix when the pen is at a point, or nowhere. -/
def Step.stored (step : Step K) (matrix : Matrix K) (current? : Option (Point K)) :
    List (Segment K) :=
  match step, current? with
  | .setMatrix _, _ | .take, _ | .close, none => []
  | .move target, _ | .curve _ _ target, none | .curveFromCurrent _ target, none
  | .curveToTarget _ target, none => [.move (matrix.apply target)]
  | .line target, _ => [.line (matrix.apply target)]
  | .curve control₁ control₂ target, some _ =>
    [.curve (matrix.apply control₁) (matrix.apply control₂) (matrix.apply target)]
  | .curveFromCurrent control₂ target, some current =>
    [.curve current (matrix.apply control₂) (matrix.apply target)]
  | .curveToTarget control₁ target, some _ =>
    [.curve (matrix.apply control₁) (matrix.apply target) (matrix.apply target)]
  | .close, some _ => [.close]
  | .rectangle x y width height, _ =>
    [.move (matrix.apply ⟨x, y⟩), .line (matrix.apply ⟨x + width, y⟩),
      .line (matrix.apply ⟨x + width, y + height⟩), .line (matrix.apply ⟨x, y + height⟩), .close]

theorem path_step {step : Step K} (drawn : step ≠ .take) :
    (draft.step step).path =
      draft.path.extend (step.stored draft.matrix draft.path.current?) := by
  obtain ⟨⟨segments, current?, start?⟩, matrix⟩ := draft
  cases step with
  | setMatrix | move | line | rectangle => rfl
  | curve | curveFromCurrent | curveToTarget | close => cases current? <;> rfl
  | take => exact absurd rfl drawn

theorem Step.allows_stored (step : Step K) (matrix : Matrix K) (pen : Pen K) :
    pen.Allows (step.stored matrix pen.current?) := by
  obtain ⟨current?, start?⟩ := pen
  cases step with
  | setMatrix | take => trivial
  | move | line => exact ⟨nofun, trivial⟩
  | curve | curveFromCurrent | curveToTarget =>
      cases current? with
      | none => exact ⟨nofun, trivial⟩
      | some => exact ⟨fun _ => rfl, trivial⟩
  | close =>
      cases current? with
      | none => trivial
      | some => exact ⟨fun _ => rfl, trivial⟩
  | rectangle => exact ⟨nofun, nofun, nofun, nofun, fun _ => rfl, trivial⟩

theorem traced_step (traced : draft.path.Traced) (step : Step K) :
    (draft.step step).path.Traced := by
  by_cases taken : step = .take
  · rw [taken]
    exact Path.traced_empty
  · rw [path_step taken]
    exact traced.extend (step.allows_stored draft.matrix draft.path.pen)

theorem traced_run (traced : draft.path.Traced) (steps : List (Step K)) :
    (draft.run steps).path.Traced := by
  induction steps generalizing draft with
  | nil => exact traced
  | cons step rest ih => exact ih (traced_step traced step)

theorem segments_step {step : Step K} (drawn : step ≠ .take) :
    (draft.step step).segments =
      draft.segments ++ step.stored draft.matrix draft.path.current? := by
  rw [segments, path_step drawn, Path.toList_extend, segments]

theorem segments_prefix_run {steps : List (Step K)} (drawn : .take ∉ steps) :
    draft.segments <+: (draft.run steps).segments := by
  induction steps generalizing draft with
  | nil => exact List.prefix_rfl
  | cons step rest ih =>
      obtain ⟨first, drawn⟩ := List.ne_and_not_mem_of_not_mem_cons drawn
      have stored : draft.segments <+: (draft.step step).segments := by
        rw [segments_step first.symm]
        exact List.prefix_append _ _
      exact stored.trans (ih drawn)

/-! ### Bounds -/

theorem bounds?_eq (draft : Draft K) : draft.path.bounds? =
    if (Rect.ofPoints draft.points).isEmpty then none else some (Rect.ofPoints draft.points) := rfl

section Bounds

variable [Scalar.Ordered K] [Scalar.Limited K]

theorem bounds?_of_points (points : draft.points ≠ [])
    (numbers : ∀ point ∈ draft.points, point.Numeric) :
    ∃ bounds, draft.path.bounds? = some bounds ∧ bounds.IsLeastAround draft.points := by
  obtain ⟨point, member⟩ := List.exists_mem_of_ne_nil _ points
  have least := Rect.isLeastAround_ofPoints member numbers
  refine ⟨_, ?_, least⟩
  rw [bounds?_eq, Rect.isEmpty_of_containsPoint (least.1 point member), if_neg Bool.false_ne_true]

theorem bounds?_eq_none_iff (inverted : (Rect.empty : Rect K).isEmpty)
    (numbers : ∀ point ∈ draft.points, point.Numeric) :
    draft.path.bounds? = none ↔ draft.points = [] := by
  constructor
  · intro unbounded
    by_contra points
    obtain ⟨bounds, found, _⟩ := bounds?_of_points points numbers
    cases unbounded.symm.trans found
  · intro nothing
    rw [bounds?_eq, nothing]
    exact if_pos inverted

end Bounds

/-- What a draft keeps beside its segments is told from these alone. -/
structure Consistent (draft : Draft K) : Prop where
  current : draft.path.current? = (Pen.behind draft.segments).current?
  start : draft.path.start? = (Pen.behind draft.segments).start?
  /-- Where the segments before a curve or a closing lead, there is a point. -/
  found : ∀ before segment after, draft.segments = before ++ segment :: after →
    segment.goesOn → (Pen.behind before).current?.isSome
  /-- What a step stores is told by where the segments lead, which is the first control point of a
  curve from the current point. -/
  next : ∀ step, step ≠ .take → (draft.step step).segments =
    draft.segments ++ step.stored draft.matrix (Pen.behind draft.segments).current?
  /-- Later steps, under other matrices too, leave stored segments as they are. -/
  kept : ∀ later, .take ∉ later → draft.segments <+: (draft.run later).segments
  taken : draft.step .take = .new draft.matrix
  unbounded : (∀ point ∈ draft.points, point.Numeric) →
    (draft.path.bounds? = none ↔ draft.points = [])
  bounded : (∀ point ∈ draft.points, point.Numeric) → draft.points ≠ [] →
    ∃ bounds, draft.path.bounds? = some bounds ∧ bounds.IsLeastAround draft.points

/-- Whatever is drawn, the segments that are stored tell where the pen is, what is stored next and
what the bounds are. -/
theorem drawn_path_is_told_by_its_segments (matrix : Matrix Float) (steps : List (Step Float)) :
    ((new matrix).run steps).Consistent := by
  have traced : ((new matrix).run steps).path.Traced := traced_run Path.traced_empty steps
  have current := congrArg Pen.current? traced.pen
  have inverted : (Rect.empty : Rect Float).isEmpty = true := by decide +kernel
  refine ⟨current, congrArg Pen.start? traced.pen, ?_, ?_, ?_, rfl, ?_, ?_⟩
  · intro before segment after split goesOn
    have allowed := traced.allowed
    rw [← segments, split] at allowed
    exact allowed.isSome_current? goesOn
  · intro step drawn
    rw [segments_step drawn]
    exact congrArg (fun current? => _ ++ step.stored _ current?) current
  · intro later drawn
    exact segments_prefix_run drawn
  · intro numbers
    exact bounds?_eq_none_iff inverted numbers
  · intro numbers points
    exact bounds?_of_points points numbers

/-- A line from nowhere is closed, so that there is no point to draw on from. A curve then only moves
to its end, and another one goes on from there under a matrix that doubles. -/
def interruptedSteps : List (Step Float) := [
  .line ⟨1, 2⟩, .close, .curve ⟨9, 9⟩ ⟨9, 9⟩ ⟨3, 4⟩, .setMatrix (.scaling 2 2),
  .curveFromCurrent ⟨5, 0⟩ ⟨1, 1⟩, .close]

theorem interrupted_path_is_told_by_its_segments :
    let draft := (new .identity).run interruptedSteps
    let bounds : Rect Float := ⟨1, 0, 10, 4⟩
    draft.segments = [.line ⟨1, 2⟩, .close, .move ⟨3, 4⟩, .curve ⟨3, 4⟩ ⟨10, 0⟩ ⟨2, 2⟩, .close] ∧
      (∀ point ∈ draft.points, point.Numeric) ∧ draft.path.current? = some ⟨3, 4⟩ ∧
      draft.path.bounds? = some bounds ∧ bounds.IsLeastAround draft.points := by
  intro draft bounds
  have consistent := drawn_path_is_told_by_its_segments .identity interruptedSteps
  have stored : draft.segments =
      [.line ⟨1, 2⟩, .close, .move ⟨3, 4⟩, .curve ⟨3, 4⟩ ⟨10, 0⟩ ⟨2, 2⟩, .close] := by
    decide +kernel
  have numbers : ∀ point ∈ draft.points, point.Numeric := by decide +kernel
  have bounded : draft.path.bounds? = some bounds := by decide +kernel
  obtain ⟨_, found, least⟩ := consistent.bounded numbers (by decide +kernel)
  obtain rfl := Option.some.inj (bounded.symm.trans found)
  refine ⟨stored, numbers, ?_, bounded, least⟩
  have current := consistent.current
  rw [stored] at current
  exact current

end Draft

end PdfElements
