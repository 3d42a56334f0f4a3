import PdfElements.Object.Basic

/-! Computations that may fail, from what came of them. -/

set_option autoImplicit false

namespace PdfElements

section Bind

variable {Fault First Second : Type} {computation : Except Fault First}
  {next : First → Except Fault Second}

theorem bind_ok {result : Second} (accepted : computation >>= next = .ok result) :
    ∃ value, computation = .ok value ∧ next value = .ok result := by
  cases computation with
  | error fault => cases accepted
  | ok value => exact ⟨value, rfl, accepted⟩

theorem bind_of_ok {value : First} (accepted : computation = .ok value)
    (next : First → Except Fault Second) : computation >>= next = next value := by
  rw [accepted]
  rfl

theorem bind_error {fault : Fault} (refused : computation >>= next = .error fault) :
    computation = .error fault ∨
      ∃ value, computation = .ok value ∧ next value = .error fault := by
  cases computation with
  | error other =>
      cases refused
      exact .inl rfl
  | ok value => exact .inr ⟨value, rfl, refused⟩

theorem bind_congr_ok {other : Except Fault First} {more : First → Except Fault Second}
    (same : computation = other)
    (onward : ∀ value, computation = .ok value → next value = more value) :
    computation >>= next = other >>= more := by
  subst same
  cases computation with
  | error fault => rfl
  | ok value => exact onward value rfl

end Bind

theorem ok_of_mapError {Fault Other α : Type} {change : Fault → Other} {result : Except Fault α}
    {value : α} (accepted : result.mapError change = .ok value) : result = .ok value := by
  cases result with
  | error fault => cases accepted
  | ok found => exact congrArg Except.ok (Except.ok.inj accepted)

theorem ok_of_map {Fault α β : Type} {change : α → β} {result : Except Fault α} {value : β}
    (accepted : result.map change = .ok value) : ∃ found, result = .ok found ∧ change found = value := by
  cases result with
  | error fault => cases accepted
  | ok found => exact ⟨found, rfl, Except.ok.inj accepted⟩

theorem ok_of_toOption {Fault α : Type} {result : Except Fault α} {value : α}
    (found : result.toOption = some value) : result = .ok value := by
  cases result with
  | error fault => cases found
  | ok other => exact congrArg Except.ok (Option.some.inj found)

theorem Object.some_of_expect {α : Type} {object : Object} {kind : ObjectKind} {value? : Option α}
    {value : α} (accepted : object.expect kind value? = .ok value) : value? = some value := by
  cases value? with
  | none => cases accepted
  | some found => exact congrArg some (Except.ok.inj accepted)

end PdfElements
