import PdfElements.Document

/-! What the content of a page may report: elements of that page and warnings, with glyphs
numbered without gaps. -/

set_option autoImplicit false

namespace PdfElements

variable {K : Type}

namespace Event

def LiesOn (page : Nat) : Event K → Prop
  | .character shown => shown.page = page
  | .figure image => image.page = page
  | .shape area => area.page = page
  | .warning _ => True
  | .pageStart _ _ _ => False
  | .pageEnd _ => False
  | .stuck number => number = page

def character? : Event K → Option (Character K)
  | .character shown => some shown
  | _ => none

def characters (events : List (Event K)) : List (Character K) := events.filterMap character?

@[simp] theorem characters_append (earlier later : List (Event K)) :
    characters (earlier ++ later) = characters earlier ++ characters later :=
  List.filterMap_append

end Event

/-- Events whose glyphs have the ranks from `first` on and below `last`, in order. -/
structure Ranked (first last : Nat) (events : List (Event K)) : Prop where
  ranks : (Event.characters events).map Character.rank = List.range' first (last - first)
  ordered : first ≤ last

namespace Ranked

theorem append {first middle last : Nat} {earlier later : List (Event K)}
    (left : Ranked first middle earlier) (right : Ranked middle last later) :
    Ranked first last (earlier ++ later) where
  ranks := by
    have start := left.ordered
    have next := right.ordered
    have joined := List.range'_append_1 (s := first) (m := middle - first) (n := last - middle)
    rw [show first + (middle - first) = middle by omega,
      show middle - first + (last - middle) = last - first by omega] at joined
    rw [Event.characters_append, List.map_append, left.ranks, right.ranks]
    exact joined
  ordered := Nat.le_trans left.ordered right.ordered

theorem silent {events : List (Event K)} (rank : Nat) (noGlyphs : Event.characters events = []) :
    Ranked rank rank events where
  ranks := by simp [noGlyphs]
  ordered := Nat.le_refl rank

end Ranked

/-- Events that the content of a page causes, from the glyph with rank `first` on and before the
one with rank `last`. -/
structure PageReport (page first last : Nat) (events : List (Event K)) : Prop
    extends Ranked first last events where
  onPage : ∀ event ∈ events, event.LiesOn page

namespace PageReport

theorem nil (page rank : Nat) : PageReport page rank rank ([] : List (Event K)) :=
  ⟨.silent rank rfl, by simp⟩

theorem append {page first middle last : Nat} {earlier later : List (Event K)}
    (left : PageReport page first middle earlier) (right : PageReport page middle last later) :
    PageReport page first last (earlier ++ later) := by
  refine ⟨left.toRanked.append right.toRanked, ?_⟩
  intro event member
  rcases List.mem_append.mp member with member | member
  · exact left.onPage event member
  · exact right.onPage event member

theorem warning (page rank : Nat) (problem : Warning) :
    PageReport page rank rank [(Event.warning problem : Event K)] :=
  ⟨.silent rank rfl, by simp [Event.LiesOn]⟩

theorem stuck (page rank : Nat) : PageReport page rank rank [(Event.stuck page : Event K)] :=
  ⟨.silent rank rfl, by simp [Event.LiesOn]⟩

theorem figure (rank : Nat) (image : Figure K) :
    PageReport image.page rank rank [.figure image] :=
  ⟨.silent rank rfl, by simp [Event.LiesOn]⟩

theorem shape (rank : Nat) (area : Shape K) :
    PageReport area.page rank rank [.shape area] :=
  ⟨.silent rank rfl, by simp [Event.LiesOn]⟩

theorem character (shown : Character K) :
    PageReport shown.page shown.rank (shown.rank + 1) [.character shown] where
  ranks := by simp [Event.characters, Event.character?]
  ordered := Nat.le_succ shown.rank
  onPage := by simp [Event.LiesOn]

end PageReport

end PdfElements
