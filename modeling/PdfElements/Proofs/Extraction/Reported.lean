import Mathlib.Data.List.TakeWhile
import PdfElements.Extraction

/-! What is reported of a run: all that it comes by, or only what there is before it gets stuck. -/

set_option autoImplicit false

namespace PdfElements.Extraction

variable {K : Type}

/-- A run that never gets stuck. -/
def GoesOn (trace : List (Event K)) : Prop := ∀ event ∈ trace, event.isStuck = false

theorem any_isStuck_eq_false_iff {trace : List (Event K)} :
    trace.any Event.isStuck = false ↔ GoesOn trace := by
  simp only [GoesOn, List.any_eq_false, Bool.not_eq_true]

theorem goesOn_append {before behind : List (Event K)} :
    GoesOn (before ++ behind) ↔ GoesOn before ∧ GoesOn behind :=
  List.forall_mem_append

theorem goesOn_map {change : Event K → Event K}
    (keeps : ∀ event, (change event).isStuck = event.isStuck) {trace : List (Event K)} :
    GoesOn (trace.map change) ↔ GoesOn trace := by
  simp only [GoesOn, List.forall_mem_map, keeps]

theorem reported_of_goesOn {trace : List (Event K)} (goesOn : GoesOn trace) :
    reported trace = trace := by
  refine List.takeWhile_eq_self_iff.mpr fun event member => ?_
  rw [goesOn event member, Bool.not_false]

theorem reported_cons {event : Event K} (goesOn : event.isStuck = false) (rest : List (Event K)) :
    reported (event :: rest) = event :: reported rest := by
  simp only [reported, List.takeWhile_cons, goesOn, Bool.not_false, if_true]

theorem reported_append_of_goesOn {before : List (Event K)} (goesOn : GoesOn before)
    (behind : List (Event K)) : reported (before ++ behind) = before ++ reported behind := by
  refine List.takeWhile_append_of_pos fun event member => ?_
  rw [goesOn event member, Bool.not_false]

theorem reported_append_of_stuck {before : List (Event K)} (stuck : ¬ GoesOn before)
    (behind : List (Event K)) : reported (before ++ behind) = reported before := by
  induction before with
  | nil => exact absurd (List.forall_mem_nil _) stuck
  | cons event rest ih =>
      unfold reported at ih ⊢
      rw [List.cons_append, List.takeWhile_cons, List.takeWhile_cons]
      cases now : event.isStuck with
      | true => rfl
      | false =>
          have later : ¬ GoesOn rest := fun goesOn => stuck (List.forall_mem_cons.mpr ⟨now, goesOn⟩)
          simp only [Bool.not_false, if_true, ih later]

theorem reported_append (before behind : List (Event K)) :
    ∃ rest, reported (before ++ behind) = reported before ++ rest ∧ rest ⊆ behind := by
  by_cases goesOn : GoesOn before
  · refine ⟨reported behind, ?_, (List.takeWhile_sublist _).subset⟩
    rw [reported_append_of_goesOn goesOn, reported_of_goesOn goesOn]
  · refine ⟨[], ?_, List.nil_subset behind⟩
    rw [reported_append_of_stuck goesOn, List.append_nil]

theorem mem_of_mem_reported {trace : List (Event K)} {event : Event K}
    (member : event ∈ reported trace) : event ∈ trace :=
  (List.takeWhile_sublist _).subset member

/-- What gets stuck and what does not is the same in both. -/
def KeepsStuck (change : Event K → Option (Event K)) : Prop :=
  ∀ event, (change event).any Event.isStuck = event.isStuck

theorem reported_filterMap {change : Event K → Option (Event K)} (keeps : KeepsStuck change)
    (trace : List (Event K)) :
    reported (trace.filterMap change) = (reported trace).filterMap change := by
  unfold reported
  induction trace with
  | nil => rfl
  | cons event rest ih =>
      have same := keeps event
      rw [List.takeWhile_cons]
      cases changed : change event with
      | none =>
          rw [changed] at same
          simp only [List.filterMap_cons, changed, ih, ← same, Option.any_none, Bool.not_false,
            if_true]
      | some shown =>
          rw [changed, Option.any_some] at same
          rw [List.filterMap_cons, changed, List.takeWhile_cons, same]
          cases event.isStuck with
          | true => rfl
          | false => simp only [Bool.not_false, if_true, List.filterMap_cons, changed, ih]

theorem any_isStuck_filterMap {change : Event K → Option (Event K)} (keeps : KeepsStuck change)
    (trace : List (Event K)) :
    (trace.filterMap change).any Event.isStuck = trace.any Event.isStuck := by
  rw [List.any_filterMap]
  exact congrArg (List.any trace) (funext keeps)

theorem reported_map {change : Event K → Event K}
    (keeps : ∀ event, (change event).isStuck = event.isStuck) (trace : List (Event K)) :
    reported (trace.map change) = (reported trace).map change := by
  have same := @reported_filterMap K (some ∘ change) keeps trace
  rwa [List.filterMap_eq_map] at same

variable [Scalar K]

theorem assembled_of_goesOn {trace : List (Event K)} (goesOn : GoesOn trace)
    (source? : Option String) (places? : Option Nat) :
    assembled source? places? trace = some (.ofEvents source? places? trace) := by
  rw [assembled, any_isStuck_eq_false_iff.mpr goesOn]
  rfl

/-- A document is assembled exactly from a run that never gets stuck, of all that it reports. -/
theorem assembled_eq_some_iff {source? : Option String} {places? : Option Nat}
    {trace : List (Event K)} {assembly : Assembly K} :
    assembled source? places? trace = some assembly ↔
      GoesOn trace ∧ Assembly.ofEvents source? places? trace = assembly := by
  rw [assembled, ← any_isStuck_eq_false_iff]
  cases trace.any Event.isStuck <;> simp

theorem assembled_eq_none_iff {source? : Option String} {places? : Option Nat}
    {trace : List (Event K)} :
    assembled source? places? trace = none ↔ ¬ GoesOn trace := by
  rw [assembled, ← any_isStuck_eq_false_iff]
  cases trace.any Event.isStuck <;> simp

end PdfElements.Extraction
