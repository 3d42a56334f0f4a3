import PdfElements.Proofs.Extraction.Rendering
import PdfElements.Proofs.Extraction.Stuck
import PdfElements.Proofs.Interpretation.Fonts

/-! Pages do not depend on each other, but that a page at which the run gets stuck is the last one.
What an interpreter keeps from page to page is the rank of the next glyph and the fonts that it has
read, and a font with a name of its own is read the same whenever it is. -/

set_option autoImplicit false

namespace PdfElements

variable {K : Type}

/-- The fonts of a document have names of their own, as far as they have numbers. -/
def ObjectStore.NamesFonts (store : ObjectStore) : Prop :=
  ∀ id font, store.GivesFont (.reference id) → store.dictionary id = .ok font →
    ∃ name, font.find? "BaseFont" = some (.name name)

theorem ObjectStore.NamesFonts.once {store : ObjectStore} (named : store.NamesFonts) :
    store.NamesFontsOnce := by
  intro id font name other given _ found
  exact .inl (named id font given.gives found)

variable [Scalar K]

/-! ### Pages on their own -/

structure Interpreter.Between (store : ObjectStore) (interpreter : Interpreter K) : Prop where
  site : interpreter.site = (start : Interpreter K).site
  fonts : interpreter.fonts.Sound store id

open Typeface Extraction

namespace Interpreter

variable {store : ObjectStore} {options : ExtractionOptions}

theorem between_start (store : ObjectStore) : (start : Interpreter K).Between store where
  site := rfl
  fonts := FontCache.sound_nil store id

/-- What a new interpreter comes by on a page. -/
def alone (setting : Setting) (index : Nat) (id : ObjectId) : List (Event K) :=
  (start.page setting (index + 1) id).events.toList

theorem site_runPage (setting : Setting) (number : Nat) (source : PageSource K)
    (interpreter : Interpreter K) :
    (interpreter.runPage setting number source).site = interpreter.site := by
  rw [runPage_eq]
  have runs := Interpretation.resumes_run setting source.content
    (interpreter.startPage number source)
  exact runs.site

theorem site_page (setting : Setting) (number : Nat) (id : ObjectId)
    (interpreter : Interpreter K) :
    (interpreter.page setting number id).site = interpreter.site := by
  have warned (descriptions : List String) (interpreter : Interpreter K) :
      (descriptions.foldl (fun interpreter description =>
        interpreter.warn setting (defect number description)) interpreter).site =
      interpreter.site := by
    induction descriptions generalizing interpreter with
    | nil => rfl
    | cons description rest ih => rw [List.foldl_cons, ih, site_warn]
  unfold Interpreter.page
  exact (site_runPage setting number _ _).trans (warned _ interpreter)

private theorem renders_alone {interpreter : Interpreter K} (between : interpreter.Between store)
    (named : store.NamesFonts) (options : ExtractionOptions) (index : Nat) (id : ObjectId) :
    (start.page ⟨store, options⟩ (index + 1) id).Renders
      (.later store options (sameUnderNames_of_once named.once) interpreter.rank)
      ⟨index + 1, (start : Interpreter K).events.toList, interpreter.events.toList⟩
      (interpreter.page ⟨store, options⟩ (index + 1) id) :=
  renders_page (.later store options (sameUnderNames_of_once named.once) interpreter.rank)
    between.site (Nat.zero_add interpreter.rank).symm ⟨(between_start store).fonts, between.fonts⟩
    index id

/-- A page behind others is the page alone behind the glyphs of the others. -/
theorem Between.page {interpreter : Interpreter K} (between : interpreter.Between store)
    (named : store.NamesFonts) (options : ExtractionOptions) (index : Nat) (id : ObjectId) :
    (interpreter.page ⟨store, options⟩ (index + 1) id).events.toList =
        interpreter.events.toList ++
          (alone ⟨store, options⟩ index id).map (Event.behind interpreter.rank) ∧
      (interpreter.page ⟨store, options⟩ (index + 1) id).Between store := by
  have renders := renders_alone between named options index id
  obtain ⟨found, otherFound, events, otherEvents, same, _⟩ := renders.reports
  have all : (alone ⟨store, options⟩ index id : List (Event K)) = found := events
  rw [Rendition.filterMap_later] at same
  simp only [Rendition.later, Event.map_seen_id] at same
  refine ⟨?_, ?_, renders.fonts.2⟩
  · rw [all, same]
    exact otherEvents
  · rw [site_page, between.site]

theorem page?_alone (named : store.NamesFonts) (options : ExtractionOptions) (index : Nat)
    (id : ObjectId) (glyphs : Nat) :
    ∀ event ∈ (alone ⟨store, options⟩ index id : List (Event K)).map (Event.behind glyphs),
      event.page? = some (index + 1) := by
  have renders := renders_alone (K := K) (between_start store) named options index id
  obtain ⟨found, _, events, _, _, placed⟩ := renders.reports
  have all : (alone ⟨store, options⟩ index id : List (Event K)) = found := events
  intro event member
  obtain ⟨source, listed, rfl⟩ := List.mem_map.mp member
  exact (Event.page?_behind _ _).trans (placed source (all ▸ listed))

theorem rank_page (setting : Setting) (number : Nat) (id : ObjectId) (interpreter : Interpreter K)
    {added : List (Event K)}
    (events : (interpreter.page setting number id).events.toList =
      interpreter.events.toList ++ added) :
    (interpreter.page setting number id).rank =
      interpreter.rank + (Event.characters added).length := by
  obtain ⟨found, foundEvents, _, ranked⟩ := reports_page setting number id interpreter
  obtain rfl : added = found := List.append_cancel_left (events.symm.trans foundEvents)
  have ordered := ranked.ordered
  have count := congrArg List.length ranked.ranks
  rw [List.length_map, List.length_range'] at count
  omega

theorem stops_add {setting : Setting} {index : Nat} (stopped : stops setting index = true)
    (more : Nat) : stops setting (index + more) = true := by
  unfold stops at *
  cases limited : setting.options.pageLimit? with
  | none => simp [limited] at stopped
  | some limit =>
      simp only [limited, decide_eq_true_eq] at stopped ⊢
      exact Nat.le_add_right_of_le stopped

/-- What is reported behind some pages is of later pages. -/
theorem Between.pages_later {interpreter : Interpreter K} (between : interpreter.Between store)
    (named : store.NamesFonts) (options : ExtractionOptions) (total index : Nat)
    (ids : List ObjectId) :
    ∃ later, (interpreter.pages ⟨store, options⟩ total index ids).events.toList =
        interpreter.events.toList ++ later ∧
      ∀ event ∈ later, ∃ page, event.page? = some page ∧ index < page := by
  induction ids generalizing index interpreter with
  | nil => exact ⟨[], (List.append_nil _).symm, by simp⟩
  | cons id rest ih =>
      simp only [pages]
      split
      · unfold warn
        split
        · refine ⟨[_], Array.toList_push, ?_⟩
          intro event member
          obtain rfl := List.mem_singleton.mp member
          exact ⟨index + 1, page?_locate rfl interpreter, Nat.lt_succ_self index⟩
        · exact ⟨[], (List.append_nil _).symm, by simp⟩
      · obtain ⟨events, next⟩ := between.page named options index id
        obtain ⟨later, laterEvents, laterPlaced⟩ := ih next (index + 1)
        rw [events, List.append_assoc] at laterEvents
        refine ⟨_, laterEvents, ?_⟩
        intro event member
        rcases List.mem_append.mp member with member | member
        · exact ⟨index + 1, page?_alone named options index id _ event member,
            Nat.lt_succ_self index⟩
        · obtain ⟨page, onPage, behind⟩ := laterPlaced event member
          exact ⟨page, onPage, Nat.lt_of_succ_lt behind⟩

/-- A run over some pages: before a page, the page alone, behind it. -/
theorem Between.pages_split {interpreter : Interpreter K} (between : interpreter.Between store)
    (named : store.NamesFonts) (total index : Nat) {ids : List ObjectId} {place : Nat}
    {id : ObjectId} (listed : ids[place]? = some id)
    (goesOn : stops ⟨store, options⟩ (index + place) = false) :
    ∃ earlier later, (interpreter.pages ⟨store, options⟩ total index ids).events.toList =
        interpreter.events.toList ++ (earlier ++
          ((alone ⟨store, options⟩ (index + place) id).map
            (Event.behind (interpreter.rank + (Event.characters earlier).length)) ++ later)) ∧
      (GoesOn earlier ↔ ∀ before < place, ∀ other, ids[before]? = some other →
        GoesOn (alone ⟨store, options⟩ (index + before) other : List (Event K))) ∧
      (∀ event ∈ earlier, ∃ page, event.page? = some page ∧ page ≤ index + place) ∧
      ∀ event ∈ later, ∃ page, event.page? = some page ∧ index + place + 1 < page := by
  induction ids generalizing index interpreter place with
  | nil => cases listed
  | cons first rest ih =>
      have reached : stops ⟨store, options⟩ index = false := by
        cases stopped : stops ⟨store, options⟩ index with
        | false => rfl
        | true => cases (stops_add stopped place).symm.trans goesOn
      obtain ⟨events, next⟩ := between.page named options index first
      simp only [pages, reached]
      cases place with
      | zero =>
          cases listed
          obtain ⟨later, laterEvents, laterPlaced⟩ :=
            next.pages_later named options total (index + 1) rest
          rw [events, List.append_assoc] at laterEvents
          exact ⟨[], later, laterEvents, by simp [GoesOn], by simp, laterPlaced⟩
      | succ place =>
          have forward : index + (place + 1) = index + 1 + place := by omega
          rw [forward] at goesOn ⊢
          obtain ⟨earlier, later, allEvents, earlierGoesOn, earlierPlaced, laterPlaced⟩ :=
            ih next (index + 1) listed goesOn
          -- The glyphs of the first page are behind those before it, and before the others.
          have rank := rank_page _ _ _ interpreter events
          rw [events, rank, Nat.add_assoc, ← List.length_append, ← Event.characters_append,
            List.append_assoc, ← List.append_assoc _ earlier] at allEvents
          refine ⟨_, later, allEvents, ?_, ?_, laterPlaced⟩
          · rw [goesOn_append, goesOn_map (Event.isStuck_behind _), earlierGoesOn,
              Nat.forall_lt_succ_left]
            simp only [List.getElem?_cons_zero, List.getElem?_cons_succ, Option.some.injEq,
              forall_eq', Nat.add_zero, Nat.add_right_comm index 1, Nat.add_assoc index _ 1]
          intro event member
          rcases List.mem_append.mp member with member | member
          · exact ⟨index + 1, page?_alone named options index first _ event member,
              Nat.le_add_right _ _⟩
          · exact earlierPlaced event member

end Interpreter

omit [Scalar K] in
/-- Events up to a page have all glyphs up to it, when later ones follow. -/
theorem Event.countP_characters {earlier later : List (Event K)} {index : Nat}
    (before : ∀ event ∈ earlier, ∃ page, event.page? = some page ∧ page ≤ index)
    (behind : ∀ event ∈ later, ∃ page, event.page? = some page ∧ index < page) :
    (Event.characters (earlier ++ later)).countP (fun shown => decide (shown.page ≤ index)) =
      (Event.characters earlier).length := by
  have names {events : List (Event K)} {shown : Character K}
      (member : shown ∈ Event.characters events) :
      ∃ event ∈ events, event.page? = some shown.page := by
    obtain ⟨event, listed, isCharacter⟩ := List.mem_filterMap.mp member
    refine ⟨event, listed, ?_⟩
    cases event <;> cases isCharacter
    rfl
  have all : (Event.characters earlier).countP (fun shown => decide (shown.page ≤ index)) =
      (Event.characters earlier).length := by
    refine List.countP_eq_length.mpr fun shown member => decide_eq_true ?_
    obtain ⟨event, listed, named⟩ := names member
    obtain ⟨page, onPage, atMost⟩ := before event listed
    exact Option.some.inj (onPage.symm.trans named) ▸ atMost
  have none : (Event.characters later).countP (fun shown => decide (shown.page ≤ index)) = 0 := by
    refine List.countP_eq_zero.mpr fun shown member => ?_
    obtain ⟨event, listed, named⟩ := names member
    obtain ⟨page, onPage, after⟩ := behind event listed
    have same : page = shown.page := Option.some.inj (onPage.symm.trans named)
    simp only [decide_eq_true_eq]
    omega
  rw [Event.characters_append, List.countP_append, all, none, Nat.add_zero]

omit [Scalar K] in
theorem Event.filter_elsewhere {events : List (Event K)} {number : Nat}
    (elsewhere : ∀ event ∈ events, ∃ page, event.page? = some page ∧ page ≠ number) :
    (events.filter fun event => decide (event.page? = some number)) = [] := by
  refine List.filter_eq_nil_iff.mpr fun event listed => ?_
  obtain ⟨page, onPage, other⟩ := elsewhere event listed
  simpa only [onPage, Option.some.injEq, decide_eq_true_eq] using other

omit [Scalar K] in
theorem Event.filter_between {earlier events later : List (Event K)} {number : Nat}
    (before : ∀ event ∈ earlier, ∃ page, event.page? = some page ∧ page < number)
    (within : ∀ event ∈ events, event.page? = some number)
    (behind : ∀ event ∈ later, ∃ page, event.page? = some page ∧ number < page) :
    ((earlier ++ (events ++ later)).filter fun event => decide (event.page? = some number)) =
      events := by
  have noneEarlier := filter_elsewhere fun event member =>
    let ⟨page, onPage, less⟩ := before event member
    ⟨page, onPage, less.ne⟩
  have noneLater := filter_elsewhere fun event member =>
    let ⟨page, onPage, more⟩ := behind event member
    ⟨page, onPage, more.ne'⟩
  have all : (events.filter fun event => decide (event.page? = some number)) = events :=
    List.filter_eq_self.mpr fun event member => decide_eq_true (within event member)
  rw [List.filter_append, List.filter_append, noneEarlier, noneLater, all, List.nil_append,
    List.append_nil]

namespace Extraction

/-- What a run reports of a page within the limit is what a new interpreter reports of that page
alone, behind the glyphs of the pages before, unless the run gets stuck at one of these, which a new
interpreter would do as well: then nothing is reported of the page. That never happens in a document
where no color space is part of itself. -/
theorem pages_are_independent (store : ObjectStore) (options : ExtractionOptions)
    (named : store.NamesFonts) {index : Nat} {id : ObjectId}
    (listed : (PageTree.pages store)[index]? = some id)
    (goesOn : Interpreter.stops ⟨store, options⟩ index = false) :
    let found : List (Event K) := events store options
    let onPage := found.filter fun event => decide (event.page? = some (index + 1))
    let glyphsBefore := (Event.characters found).countP fun shown => decide (shown.page ≤ index)
    let earlierGoOn := ∀ before < index, ∀ other, (PageTree.pages store)[before]? = some other →
      GoesOn (Interpreter.alone ⟨store, options⟩ before other : List (Event K))
    (earlierGoOn → onPage =
      (reported (Interpreter.alone ⟨store, options⟩ index id)).map (Event.behind glyphsBefore)) ∧
    (¬ earlierGoOn → onPage = []) ∧
    (ColorSpace.Acyclic store → earlierGoOn) := by
  intro found onPage glyphsBefore earlierGoOn
  let start : Interpreter K := .start
  have between : start.Between store := Interpreter.between_start store
  obtain ⟨earlier, later, events, earlierGoesOn, earlierPlaced, laterPlaced⟩ :=
    between.pages_split named (PageTree.pages store).length 0 listed
      (by rwa [Nat.zero_add])
  simp only [Nat.zero_add] at events earlierGoesOn earlierPlaced laterPlaced
  let glyphs : Nat := start.rank + (Event.characters earlier).length
  let page : List (Event K) := (Interpreter.alone ⟨store, options⟩ index id).map (Event.behind glyphs)
  have all : found = reported (earlier ++ (page ++ later)) := congrArg reported events
  have pagePlaced : ∀ event ∈ page, event.page? = some (index + 1) :=
    Interpreter.page?_alone named options index id _
  refine ⟨?_, ?_, fun acyclic before _ other _ => goesOn_page acyclic options (before + 1) other⟩
  · intro goOn
    obtain ⟨rest, reports, within⟩ := reported_append page later
    rw [reported_append_of_goesOn (earlierGoesOn.mpr goOn), reports] at all
    have reportedPlaced (event) (member : event ∈ reported page) : event.page? = some (index + 1) :=
      pagePlaced event (mem_of_mem_reported member)
    have restPlaced : ∀ event ∈ reported page ++ rest,
        ∃ page, event.page? = some page ∧ index < page := by
      intro event member
      rcases List.mem_append.mp member with member | member
      · exact ⟨index + 1, reportedPlaced event member, Nat.lt_succ_self index⟩
      · obtain ⟨page, onPage, after⟩ := laterPlaced event (within member)
        exact ⟨page, onPage, Nat.lt_of_succ_lt after⟩
    have counted : glyphsBefore = glyphs := by
      have count := Event.countP_characters earlierPlaced restPlaced
      rw [← all] at count
      exact count.trans (Nat.zero_add _).symm
    have listedOnPage : onPage = reported page :=
      (congrArg (List.filter _) all).trans (Event.filter_between
        (fun event member =>
          let ⟨page, onPage, atMost⟩ := earlierPlaced event member
          ⟨page, onPage, Nat.lt_succ_of_le atMost⟩)
        reportedPlaced fun event member => laterPlaced event (within member))
    rw [listedOnPage, counted]
    exact reported_map (Event.isStuck_behind glyphs) _
  · intro stuck
    rw [reported_append_of_stuck (earlierGoesOn.not.mpr stuck)] at all
    have noneEarlier := Event.filter_elsewhere fun event member =>
      let ⟨page, onPage, atMost⟩ := earlierPlaced event (mem_of_mem_reported member)
      ⟨page, onPage, (Nat.lt_succ_of_le atMost).ne⟩
    exact (congrArg (List.filter _) all).trans noneEarlier

def twoPages : ObjectStore :=
  let key := Text.encodeUtf8
  let page : Object := .dictionary [(key "Type", .name (key "Page")),
    (key "Resources", .reference ⟨5, 0⟩), (key "Contents", .reference ⟨6, 0⟩)]
  let fonts : Object := .dictionary [(key "F", .reference ⟨7, 0⟩)]
  { objects := [
      (⟨1, 0⟩, .dictionary [(key "Pages", .reference ⟨2, 0⟩)]),
      (⟨2, 0⟩, .dictionary [(key "Kids", .array [.reference ⟨3, 0⟩, .reference ⟨4, 0⟩])]),
      (⟨3, 0⟩, page),
      (⟨4, 0⟩, page),
      (⟨5, 0⟩, .dictionary [(key "Font", fonts)]),
      (⟨6, 0⟩, .stream [] (key "BT /F 9 Tf (A) Tj ET")),
      (⟨7, 0⟩, .dictionary [(key "Subtype", .name (key "Type1")),
        (key "BaseFont", .name (key "Helvetica"))])]
    trailer := [(key "Root", .reference ⟨1, 0⟩)] }

private theorem fonts_of_twoPages {resources : Dictionary}
    (held : twoPages.Holds (.dictionary resources)) :
    twoPages.dictionary? resources "ExtGState" = none ∧
      ∀ fonts, twoPages.dictionary? resources "Font" = some fonts →
        fonts = [(Text.encodeUtf8 "F", .reference ⟨7, 0⟩)] := by
  simp only [ObjectStore.Holds, twoPages, List.mem_cons, List.not_mem_nil, exists_eq_or_imp,
    exists_eq_left, Object.inside_iff (.dictionary _), Object.inside_iff (.array _),
    Object.inside_iff (.name _), Object.inside_iff (.reference _), Object.inside_iff (.stream _ _),
    Object.children, List.map, Object.dictionary.injEq, reduceCtorEq, false_or, or_false, false_and,
    exists_false] at held
  rcases held with rfl | rfl | rfl | rfl | (rfl | rfl) | rfl <;>
    refine ⟨rfl, fun fonts found => ?_⟩ <;> cases found
  rfl

private theorem namesFonts_twoPages : twoPages.NamesFonts := by
  intro id font given found
  cases given with
  | named held listed member =>
      obtain rfl := (fonts_of_twoPages held).2 _ listed
      simp only [Dictionary.find?, Dictionary.get?] at member
      split at member <;> cases member
      cases found
      exact ⟨_, rfl⟩
  | parameter held listed _ _ => cases (fonts_of_twoPages held).1.symm.trans listed

theorem second_page_is_independent :
    let found : List (Event Float) := events twoPages {}
    let glyphsBefore := (Event.characters found).countP fun shown => decide (shown.page ≤ 1)
    (PageTree.pages twoPages)[1]? = some ⟨4, 0⟩ ∧ twoPages.NamesFonts ∧ glyphsBefore = 1 ∧
      (found.filter fun event => decide (event.page? = some 2)) =
        (reported (Interpreter.alone ⟨twoPages, {}⟩ 1 ⟨4, 0⟩)).map (Event.behind glyphsBefore) := by
  intro found glyphsBefore
  have root : PageTree.root? twoPages = some ⟨2, 0⟩ := by decide +kernel
  have kids : PageTree.children twoPages ⟨2, 0⟩ = [.reference ⟨3, 0⟩, .reference ⟨4, 0⟩] := rfl
  have objects : twoPages.objects.length = 7 := rfl
  have first : (twoPages.dictionary ⟨3, 0⟩).toOption.bind PageTree.nodeType? = some "Page" := by
    decide +kernel
  have second : (twoPages.dictionary ⟨4, 0⟩).toOption.bind PageTree.nodeType? = some "Page" := by
    decide +kernel
  have pages : PageTree.pages twoPages = [⟨3, 0⟩, ⟨4, 0⟩] := by
    simp only [PageTree.pages, root, kids, objects, PageTree.pagesFrom, PageTree.pagesFrom.visit,
      Object.reference?, first, second, if_true]
  have listed : (PageTree.pages twoPages)[1]? = some ⟨4, 0⟩ := by
    rw [pages]
    rfl
  refine ⟨listed, namesFonts_twoPages, ?_, ?_⟩
  · simp only [glyphsBefore, found, events, trace, pages]
    decide +kernel
  · refine (pages_are_independent twoPages {} namesFonts_twoPages listed rfl).1 ?_
    intro before earlier other found
    obtain rfl : before = 0 := by omega
    rw [pages] at found
    cases found
    exact any_isStuck_eq_false_iff.mp (by decide +kernel)

end Extraction

end PdfElements
