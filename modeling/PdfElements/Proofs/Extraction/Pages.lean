import PdfElements.Proofs.Extraction.Stuck

/-! The document that the events of a run are assembled to: what lies on a page is stored there, in
the order in which it was reported. A run that gets stuck reports the pages before and the beginning
of one more, and nothing is assembled from it. -/

set_option autoImplicit false

namespace PdfElements

variable {K : Type}

/-- All elements that are stored in a page name it. -/
structure Page.Owns (page : Page K) : Prop where
  characters : ∀ shown ∈ page.characters, shown.page = page.number
  figures : ∀ image ∈ page.figures, image.page = page.number
  shapes : ∀ area ∈ page.shapes, area.page = page.number

namespace Assembly

variable [Scalar K]

private theorem add_lying (places? : Option Nat) {number : Nat} {event : Event K}
    (lies : event.LiesOn number) {assembly : Assembly K} {earlier : List (Page K)} {page : Page K}
    (pages : assembly.document.pages.toList = earlier ++ [page]) (same : page.number = number)
    (owns : page.Owns) :
    ∃ changed : Page K,
      (assembly.add places? event).document.pages.toList = earlier ++ [changed] ∧
      changed.number = number ∧ changed.Owns ∧
      changed.characters.toList = page.characters.toList ++ Event.characters [event] := by
  have size : assembly.document.pages.size = earlier.length + 1 := by
    rw [← Array.length_toList, pages, List.length_append, List.length_singleton]
  have last (change : Page K → Page K) :
      (assembly.modifyLast change).document.pages.toList = earlier ++ [change page] := by
    simp [modifyLast, size, pages, List.modify_eq_take_drop]
  have started : 0 < assembly.document.pages.size := by omega
  cases event with
  | character shown =>
      refine ⟨{ page with characters := page.characters.push shown }, ?_, same, ?_, ?_⟩
      · simp only [add, started, if_true]
        exact last _
      · refine ⟨?_, owns.figures, owns.shapes⟩
        intro stored member
        rcases Array.mem_push.mp member with member | rfl
        · exact owns.characters stored member
        · exact lies.trans same.symm
      · exact Array.toList_push
  | figure image =>
      refine ⟨{ page with figures := page.figures.push image }, ?_, same, ?_, ?_⟩
      · simp only [add, started, if_true]
        exact last _
      · refine ⟨owns.characters, ?_, owns.shapes⟩
        intro stored member
        rcases Array.mem_push.mp member with member | rfl
        · exact owns.figures stored member
        · exact lies.trans same.symm
      · exact (List.append_nil _).symm
  | shape area =>
      refine ⟨{ page with shapes := page.shapes.push area }, ?_, same, ?_, ?_⟩
      · simp only [add, started, if_true]
        exact last _
      · refine ⟨owns.characters, owns.figures, ?_⟩
        intro stored member
        rcases Array.mem_push.mp member with member | rfl
        · exact owns.shapes stored member
        · exact lies.trans same.symm
      · exact (List.append_nil _).symm
  | warning problem => exact ⟨page, pages, same, owns, (List.append_nil _).symm⟩
  | stuck _ => exact ⟨page, pages, same, owns, (List.append_nil _).symm⟩
  | pageStart _ _ _ | pageEnd _ => cases lies

private theorem add_body (places? : Option Nat) {number : Nat} {body : List (Event K)}
    (lies : ∀ event ∈ body, event.LiesOn number) {assembly : Assembly K}
    {earlier : List (Page K)} {page : Page K}
    (pages : assembly.document.pages.toList = earlier ++ [page]) (same : page.number = number)
    (owns : page.Owns) :
    ∃ changed : Page K,
      (body.foldl (add places?) assembly).document.pages.toList = earlier ++ [changed] ∧
      changed.number = number ∧ changed.Owns ∧
      changed.characters.toList = page.characters.toList ++ Event.characters body := by
  induction body generalizing assembly page with
  | nil => exact ⟨page, pages, same, owns, (List.append_nil _).symm⟩
  | cons event rest ih =>
      obtain ⟨middle, middlePages, middleNumber, middleOwns, middleCharacters⟩ :=
        add_lying places? (lies event List.mem_cons_self) pages same owns
      obtain ⟨changed, changedPages, changedNumber, changedOwns, changedCharacters⟩ :=
        ih (fun event member => lies event (List.mem_cons_of_mem _ member)) middlePages middleNumber
          middleOwns
      refine ⟨changed, changedPages, changedNumber, changedOwns, ?_⟩
      rw [changedCharacters, middleCharacters, List.append_assoc, ← Event.characters_append]
      rfl

/-- Each page of a run becomes a page of the document. -/
theorem pages_of_bracketed (places? : Option Nat) {first count : Nat} {events : List (Event K)}
    (bracketed : Bracketed first count events) (assembly : Assembly K) :
    ∃ pages : List (Page K),
      (events.foldl (add places?) assembly).document.pages.toList =
        assembly.document.pages.toList ++ pages ∧
      pages.map Page.number = List.range' first count ∧ (∀ page ∈ pages, page.Owns) ∧
      (pages.flatMap fun page => page.characters.toList) = Event.characters events := by
  induction bracketed generalizing assembly with
  | done first => exact ⟨[], by simp, rfl, by simp, rfl⟩
  | warning problem _ ih => exact ih (assembly.add places? (.warning problem))
  | @page number count body later width height onPage _ ih =>
      let blank : Page K := .blank number width height places?
      have owns : blank.Owns := ⟨by simp [blank, Page.blank], by simp [blank, Page.blank],
        by simp [blank, Page.blank]⟩
      have started : (assembly.add places? (.pageStart number width height)).document.pages.toList =
          assembly.document.pages.toList ++ [blank] := Array.toList_push
      obtain ⟨page, pageStored, pageNumber, pageOwns, pageCharacters⟩ :=
        add_body places? onPage started rfl owns
      obtain ⟨pages, stored, numbers, own, characters⟩ := ih
        (body.foldl (add places?) (assembly.add places? (.pageStart number width height)))
      refine ⟨page :: pages, ?_, ?_, ?_, ?_⟩
      · rw [List.foldl_cons, List.foldl_append, List.foldl_cons]
        exact stored.trans (by rw [pageStored, List.append_assoc, List.singleton_append])
      · rw [List.map_cons, numbers, pageNumber, List.range'_succ]
      · intro stored member
        rcases List.mem_cons.mp member with rfl | member
        · exact pageOwns
        · exact own stored member
      · rw [List.flatMap_cons, characters, pageCharacters]
        exact (Event.characters_append body (.pageEnd number :: later)).symm

theorem pages_of_reports (source? : Option String) (places? : Option Nat) {first count : Nat}
    {before after : Interpreter K} (reports : Interpreter.Reports first count before after) :
    ∃ pages : List (Page K),
      (ofEvents source? places? after.events.toList).document.pages.toList =
        (ofEvents source? places? before.events.toList).document.pages.toList ++ pages ∧
      pages.map Page.number = List.range' first count ∧ pages.length = count := by
  obtain ⟨added, events, bracketed, _⟩ := reports
  obtain ⟨pages, stored, numbers, _⟩ := pages_of_bracketed places? bracketed
    (ofEvents source? places? before.events.toList)
  refine ⟨pages, ?_, numbers, ?_⟩
  · rw [← stored, events]
    simp only [ofEvents, List.foldl_append]
  · rw [← List.length_map (f := Page.number), numbers, List.length_range']

end Assembly

namespace Interpreter

variable [Scalar K]

theorem reports_limited (setting : Setting) (ids : List ObjectId) :
    Reports 1 (min ids.length (setting.options.pageLimit?.getD ids.length)) start
      (start.pages setting ids.length 0 ids : Interpreter K) := by
  have wanted : setting.wanted 0 ids.length =
      min ids.length (setting.options.pageLimit?.getD ids.length) := by
    unfold Setting.wanted
    cases setting.options.pageLimit? <;> rfl
  have front := reports_pages (K := K) setting ids.length 0
    (ids.take (setting.wanted 0 ids.length)) start
  have length : (ids.take (setting.wanted 0 ids.length)).length =
      setting.wanted 0 ids.length := by
    rw [List.length_take, wanted]
    omega
  rw [length] at front
  have all := front.trans (pages_limited setting ids.length 0 ids start)
  rwa [Nat.add_zero, wanted] at all

end Interpreter

namespace Extraction

/-! ### Runs that get stuck -/

/-- The events of so many successive pages from a number on, and of the beginning of the next. -/
def BreaksOff (first finished : Nat) (events : List (Event K)) : Prop :=
  ∃ before body width height,
    events = before ++ .pageStart (first + finished) width height :: body ∧
      Bracketed first finished before ∧ ∀ event ∈ body, event.LiesOn (first + finished)

theorem breaksOff_of_stuck {first count : Nat} {trace : List (Event K)}
    (bracketed : Bracketed first count trace) (stuck : ¬ GoesOn trace) :
    ∃ finished < count, BreaksOff first finished (reported trace) := by
  induction bracketed with
  | done => exact absurd (List.forall_mem_nil _) stuck
  | warning problem _ ih =>
      have later := fun goesOn => stuck (List.forall_mem_cons.mpr ⟨rfl, goesOn⟩)
      obtain ⟨finished, fewer, before, body, width, height, same, pages, lies⟩ := ih later
      refine ⟨finished, fewer, .warning problem :: before, body, width, height, ?_,
        .warning problem pages, lies⟩
      rw [reported_cons rfl, same, List.cons_append]
  | @page number count body later width height onPage _ ih =>
      by_cases goesOn : GoesOn body
      · have behind : ¬ GoesOn later := fun laterGoesOn => stuck (List.forall_mem_cons.mpr ⟨rfl,
          goesOn_append.mpr ⟨goesOn, List.forall_mem_cons.mpr ⟨rfl, laterGoesOn⟩⟩⟩)
        obtain ⟨finished, fewer, before, last, lastWidth, lastHeight, same, pages, lies⟩ := ih behind
        have forward : number + 1 + finished = number + (finished + 1) := by omega
        rw [forward] at same lies
        refine ⟨finished + 1, by omega, _, last, lastWidth, lastHeight, ?_,
          .page width height onPage pages, lies⟩
        rw [reported_cons rfl, reported_append_of_goesOn goesOn, reported_cons rfl, same]
        simp only [List.cons_append, List.append_assoc]
      · refine ⟨0, Nat.succ_pos count, [], reported body, width, height, ?_, .done number, ?_⟩
        · rw [reported_cons rfl, reported_append_of_stuck goesOn]
          rfl
        · exact fun event member => onPage event (mem_of_mem_reported member)

theorem goesOn_of_bracketed {first : Nat} {events : List (Event K)}
    (bracketed : Bracketed first 0 events) : GoesOn events := by
  generalize none : 0 = count at bracketed
  induction bracketed with
  | done => exact List.forall_mem_nil _
  | warning problem _ ih => exact List.forall_mem_cons.mpr ⟨rfl, ih none⟩
  | page => cases none

/-- The first glyphs of a run have the first ranks. -/
theorem ranks_reported {trace : List (Event K)} {last : Nat} (ranked : Ranked 0 last trace) :
    (Event.characters (reported trace)).map Character.rank =
      List.range (Event.characters (reported trace)).length := by
  have front : (Event.characters (reported trace)).map Character.rank <+: List.range last := by
    have all : (Event.characters trace).map Character.rank = List.range last :=
      ranked.ranks.trans List.range_eq_range'.symm
    rw [← all]
    exact ((List.takeWhile_prefix _).filterMap Event.character?).map Character.rank
  have within := front.length_le
  rw [List.length_range] at within
  rw [List.prefix_iff_eq_take.mp front, List.take_range, Nat.min_eq_left within, List.length_map]

variable [Scalar K]

/-! ### Runs with a document -/

/-- A document holds the pages up to the limit, with all that is reported on them. -/
theorem stored_of_document {store : ObjectStore} {options : ExtractionOptions}
    {source? : Option String} {assembly : Assembly K}
    (extracted : document store options source? = some assembly) :
    let available := (PageTree.pages store).length
    let wanted := min available (options.pageLimit?.getD available)
    let found : List (Event K) := events store options
    Bracketed 1 wanted found ∧
      assembly.document.pages.toList.map Page.number = List.range' 1 wanted ∧
      (∀ page ∈ assembly.document.pages, page.Owns) ∧
      assembly.document.characters = Event.characters found := by
  intro available wanted found
  obtain ⟨added, all, bracketed, _⟩ :=
    Interpreter.reports_limited (K := K) ⟨store, options⟩ (PageTree.pages store)
  have all : trace store options = added := all
  obtain ⟨goesOn, rfl⟩ := assembled_eq_some_iff.mp extracted
  have whole : found = trace store options := reported_of_goesOn goesOn
  rw [← all, ← whole] at bracketed
  obtain ⟨pages, stored, numbers, own, characters⟩ :=
    Assembly.pages_of_bracketed options.places? bracketed (.start source?)
  have stored : (Assembly.ofEvents source? options.places? found).document.pages.toList = pages :=
    stored
  rw [← whole]
  refine ⟨bracketed, stored ▸ numbers, ?_, ?_⟩
  · intro page member
    exact own page (stored ▸ Array.mem_toList_iff.mpr member)
  · rw [Document.characters, stored, characters]

/-! ### Runs with a limit -/

/-- A run with a limit goes on where the one without does, and yields the first of its pages. -/
theorem pages_of_limited (store : ObjectStore) (options : ExtractionOptions)
    (source? : Option String) (limit : Nat) {assembly : Assembly K}
    (extracted : document store { options with pageLimit? := none } source? = some assembly) :
    ∃ limited, document store { options with pageLimit? := some limit } source? = some limited ∧
      limited.document.pages.toList = assembly.document.pages.toList.take limit := by
  let setting : Setting := ⟨store, { options with pageLimit? := some limit }⟩
  let ids := PageTree.pages store
  let wanted := setting.wanted 0 ids.length
  let front : Interpreter K :=
    Interpreter.start.pages setting.unlimited ids.length 0 (ids.take wanted)
  obtain ⟨goesOn, rfl⟩ := assembled_eq_some_iff.mp extracted
  have wantedIs : wanted = min ids.length limit := rfl
  have taken : (ids.take wanted).length = wanted := by
    rw [List.length_take]
    omega
  have frontReports := Interpreter.reports_pages setting ids.length 0 (ids.take wanted)
    (.start : Interpreter K)
  have limitedReports := Interpreter.pages_limited setting ids.length 0 ids (.start : Interpreter K)
  have restReports := Interpreter.reports_pages setting ids.length (0 + (ids.take wanted).length)
    (ids.drop wanted) front
  rw [← Interpreter.pages_append, List.take_append_drop] at restReports
  -- What is behind the limit is a warning at most, and what is before it the others report as well.
  have limitedGoesOn : GoesOn (trace store setting.options : List (Event K)) := by
    obtain ⟨warnings, limitedEvents, outside, _⟩ := limitedReports
    obtain ⟨rest, allEvents, _⟩ := restReports
    have all : trace store { options with pageLimit? := none } = front.events.toList ++ rest :=
      allEvents
    have limited : trace store setting.options = front.events.toList ++ warnings := limitedEvents
    rw [all, goesOn_append] at goesOn
    exact limited ▸ goesOn_append.mpr ⟨goesOn.1, goesOn_of_bracketed outside⟩
  refine ⟨_, assembled_of_goesOn limitedGoesOn source? options.places?, ?_⟩
  obtain ⟨first, firstStored, _, firstLength⟩ :=
    Assembly.pages_of_reports source? options.places? frontReports
  obtain ⟨behind, limitedStored, _, behindLength⟩ :=
    Assembly.pages_of_reports source? options.places? limitedReports
  obtain ⟨rest, allStored, _, restLength⟩ :=
    Assembly.pages_of_reports source? options.places? restReports
  have nothing : behind = [] := List.length_eq_zero_iff.mp behindLength
  have enough : first.length ≤ limit := by omega
  have cut : rest.take (limit - first.length) = [] := by
    rw [List.take_eq_nil_iff, ← List.length_eq_zero_iff, restLength, List.length_drop]
    omega
  have limited : (Assembly.ofEvents source? options.places?
      (trace store setting.options : List (Event K))).document.pages.toList = first := by
    refine limitedStored.trans ?_
    rw [nothing, List.append_nil]
    exact firstStored
  have unlimited : (Assembly.ofEvents source? options.places? (trace store
      { options with pageLimit? := none } : List (Event K))).document.pages.toList = first ++ rest :=
    allStored.trans (congrArg (· ++ rest) firstStored)
  rw [limited, unlimited, List.take_append, List.take_of_length_le enough, cut, List.append_nil]

/-- What is reported of a document is bracketed by its pages up to the limit, in order, and its
glyphs are numbered without gaps, unless the run gets stuck. So the document holds these pages, each
with its own elements and all glyphs in the order of their ranks, and a limit cuts off the pages
behind it. A run that gets stuck reports the pages before in the same way, and then the beginning of
one that never ends; no document comes of it. No run gets stuck in a document where no color space
is part of itself. -/
theorem extraction_is_bracketed_by_pages (store : ObjectStore) (options : ExtractionOptions)
    (source? : Option String) :
    let available := (PageTree.pages store).length
    let wanted := min available (options.pageLimit?.getD available)
    let found : List (Event K) := events store options
    let document (options : ExtractionOptions) : Option (Assembly K) :=
      document store options source?
    (Event.characters found).map Character.rank = List.range (Event.characters found).length ∧
    (∀ assembly, document options = some assembly →
      Bracketed 1 wanted found ∧
      assembly.document.characters.map Character.rank =
        List.range assembly.document.characters.length ∧
      assembly.document.pages.toList.map Page.number = List.range' 1 wanted ∧
      ∀ page ∈ assembly.document.pages, page.Owns) ∧
    (document options = none → ∃ finished < wanted, BreaksOff 1 finished found) ∧
    (∀ limit assembly, document { options with pageLimit? := none } = some assembly →
      ∃ limited, document { options with pageLimit? := some limit } = some limited ∧
        limited.document.pages.toList = assembly.document.pages.toList.take limit) ∧
    (ColorSpace.Acyclic store → ∃ assembly, document options = some assembly) := by
  intro available wanted found document
  obtain ⟨added, events, bracketed, ranked⟩ :=
    Interpreter.reports_limited (K := K) ⟨store, options⟩ (PageTree.pages store)
  have all : trace store options = added := events
  rw [← all] at bracketed ranked
  have ranks : (Event.characters found).map Character.rank =
      List.range (Event.characters found).length := ranks_reported ranked
  refine ⟨ranks, ?_, ?_, fun limit _ => pages_of_limited store options source? limit, ?_⟩
  · intro assembly extracted
    obtain ⟨bracketed, numbers, own, characters⟩ := stored_of_document extracted
    exact ⟨bracketed, by rw [characters, ranks], numbers, own⟩
  · intro stuck
    exact breaksOff_of_stuck bracketed (assembled_eq_none_iff.mp stuck)
  · intro acyclic
    exact ⟨_, assembled_of_goesOn (goesOn_trace acyclic options) source? options.places?⟩

end Extraction

end PdfElements
