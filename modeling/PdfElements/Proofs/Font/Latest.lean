/-! Entries of which a later one hides those before it. A list of them is read from its end: what
the last entry gives that gives anything is what the list gives. -/

set_option autoImplicit false

namespace PdfElements

variable {Entry Value : Type}

/-- The last of the entries that give a value gives this one. -/
def GivenLast (gives : Entry → Value → Prop) (entries : List Entry) (value : Value) : Prop :=
  ∃ before entry after, entries = before ++ entry :: after ∧ gives entry value ∧
    ∀ later ∈ after, ∀ other, ¬ gives later other

variable {gives : Entry → Value → Prop} {found? : Entry → Option Value}

theorem eq_none_iff_gives_nothing
    (agrees : ∀ entry value, found? entry = some value ↔ gives entry value) (entry : Entry) :
    found? entry = none ↔ ∀ value, ¬ gives entry value := by
  simp only [Option.eq_none_iff_forall_ne_some, ne_eq, agrees]

theorem findSome_reverse_eq_some_iff
    (agrees : ∀ entry value, found? entry = some value ↔ gives entry value)
    (entries : List Entry) (value : Value) :
    entries.reverse.findSome? found? = some value ↔ GivenLast gives entries value := by
  rw [List.findSome?_eq_some_iff]
  constructor
  · rintro ⟨after, entry, before, split, given, hidden⟩
    refine ⟨before.reverse, entry, after.reverse, ?_, (agrees entry value).mp given, ?_⟩
    · rw [List.reverse_eq_iff.mp split]
      simp
    · intro later member
      exact (eq_none_iff_gives_nothing agrees later).mp (hidden later (List.mem_reverse.mp member))
  · rintro ⟨before, entry, after, rfl, given, hidden⟩
    refine ⟨after.reverse, entry, before.reverse, ?_, (agrees entry value).mpr given, ?_⟩
    · simp
    · intro later member
      exact (eq_none_iff_gives_nothing agrees later).mpr (hidden later (List.mem_reverse.mp member))

theorem findSome_reverse_eq_none_iff
    (agrees : ∀ entry value, found? entry = some value ↔ gives entry value)
    (entries : List Entry) :
    entries.reverse.findSome? found? = none ↔
      ∀ entry ∈ entries, ∀ value, ¬ gives entry value := by
  simp only [List.findSome?_eq_none_iff, List.mem_reverse, eq_none_iff_gives_nothing agrees]

end PdfElements
