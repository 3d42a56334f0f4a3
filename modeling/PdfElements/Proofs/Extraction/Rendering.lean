import PdfElements.Proofs.Extraction.Trace
import PdfElements.Proofs.Interpretation.Mirroring

/-! Pages as renditions of each other: what an interpreter finds on a page depends neither on the
state in which earlier pages have left it nor on the events before. -/

set_option autoImplicit false

namespace PdfElements.Interpreter

variable {K : Type} [Scalar K] {store : ObjectStore} {options otherOptions : ExtractionOptions}
  {rendition : Rendition K store options otherOptions}

/-! ### Warnings that name a page themselves -/

omit [Scalar K] in
theorem page?_locate {warning : Warning} {page : Nat} (placed : warning.page? = some page)
    (interpreter : Interpreter K) : (interpreter.locate warning).page? = some page := by
  unfold locate
  dsimp only
  rw [placed]
  split <;> rfl

omit [Scalar K] in
theorem locate_eq_of_placed {one other : Interpreter K} (site : other.site = one.site)
    {warning : Warning} {page : Nat} (placed : warning.page? = some page) :
    other.locate warning = one.locate warning := by
  unfold locate
  rw [site, placed]
  rfl

/-! ### Pages whose streams any runner runs -/

def runPageWith (runner : Runner K) (number : Nat) (source : PageSource K)
    (interpreter : Interpreter K) : Interpreter K :=
  let started := { interpreter with
      state := .initial number source.cropBox source.resources }.send
    (.pageStart number source.mediaBox.width source.mediaBox.height)
  (runner source.content started).send (.pageEnd number)

def pageWith (runner : Runner K) (setting : Setting) (number : Nat) (id : ObjectId)
    (interpreter : Interpreter K) : Interpreter K :=
  let (source, defects) := readPage setting id
  let warned := defects.foldl
    (fun interpreter description => interpreter.warn setting (defect number description)) interpreter
  warned.runPageWith runner number source

def pagesWith (runner : Runner K) (setting : Setting) (total : Nat) :
    (index : Nat) → List ObjectId → Interpreter K → Interpreter K
  | _, [], interpreter => interpreter
  | index, id :: rest, interpreter =>
    if stops setting index then interpreter.warn setting (limitReached index total)
    else pagesWith runner setting total (index + 1) rest
      (interpreter.pageWith runner setting (index + 1) id)

theorem pagesWith_run (setting : Setting) (total index : Nat) (ids : List ObjectId)
    (interpreter : Interpreter K) :
    interpreter.pagesWith (Interpretation.run setting) setting total index ids =
      interpreter.pages setting total index ids := by
  induction ids generalizing index interpreter with
  | nil => rfl
  | cons id rest ih =>
      rw [pagesWith, pages, ih]
      rfl

variable {first second : Runner K}

namespace Renders

variable {turn : PageTurn K} {one other : Interpreter K}

theorem warnPlaced (renders : one.Renders rendition turn other) {warning : Warning}
    (placed : warning.page? = some turn.page) :
    (one.warn ⟨store, options⟩ warning).Renders rendition turn
      (other.warn ⟨store, otherOptions⟩ warning) :=
  renders.warn warning (locate_eq_of_placed renders.site placed) (page?_locate placed one)

theorem warnings (renders : one.Renders rendition turn other) (descriptions : List String) :
    (descriptions.foldl (fun interpreter description =>
        interpreter.warn ⟨store, options⟩ (defect turn.page description)) one).Renders rendition
      turn (descriptions.foldl (fun interpreter description =>
        interpreter.warn ⟨store, otherOptions⟩ (defect turn.page description)) other) := by
  induction descriptions generalizing one other with
  | nil => exact renders
  | cons description rest ih => exact ih (renders.warnPlaced rfl)

theorem runPageWith (runs : first.Mirrors rendition second)
    (renders : one.Renders rendition turn other) (started : 0 < turn.page)
    {source : PageSource K} (provided : store.Provides source.resources) :
    (one.runPageWith first turn.page source).Renders rendition turn
      (other.runPageWith second turn.page source) := by
  have begun : Mirrors rendition turn
      { one with state := .initial turn.page source.cropBox source.resources }
      { other with state := .initial turn.page source.cropBox source.resources } :=
    { toRenders := ⟨renders.site, renders.rank, renders.fonts, renders.reports⟩
      state := rfl, onPage := rfl, started, resources := provided, pageResources := provided }
  have opened : rendition.event?
        (.pageStart turn.page source.mediaBox.width source.mediaBox.height) =
      some (Event.seen rendition.look
        (.pageStart turn.page source.mediaBox.width source.mediaBox.height)) :=
    rendition.pageStart _ _ _
  have closed : rendition.event? (.pageEnd turn.page) =
      some (Event.seen rendition.look (.pageEnd turn.page)) := rendition.pageEnd _
  have running := runs source.content (begun.send opened rfl)
  exact running.toRenders.send closed rfl

end Renders

theorem renders_before (rendition : Rendition K store options otherOptions)
    {one other : Interpreter K} (site : other.site = one.site)
    (rank : other.rank = one.rank + rendition.shift)
    (fonts : rendition.agree one.fonts other.fonts) (page : Nat) :
    one.Renders rendition ⟨page, one.events.toList, other.events.toList⟩ other :=
  ⟨site, rank, fonts, [], [], by simp, by simp, by simp, by simp⟩

theorem renders_pageWith (runs : first.Mirrors rendition second)
    {one other : Interpreter K} (site : other.site = one.site)
    (rank : other.rank = one.rank + rendition.shift)
    (fonts : rendition.agree one.fonts other.fonts) (index : Nat) (id : ObjectId) :
    (one.pageWith first ⟨store, options⟩ (index + 1) id).Renders rendition
      ⟨index + 1, one.events.toList, other.events.toList⟩
      (other.pageWith second ⟨store, otherOptions⟩ (index + 1) id) := by
  have renders := renders_before rendition site rank fonts (index + 1)
  have provided := provides_readPage (K := K) ⟨store, options⟩ id
  exact (renders.warnings _).runPageWith runs (Nat.succ_pos index) provided

theorem renders_pagesWith (runs : first.Mirrors rendition second)
    (samePages : otherOptions.pageLimit? = options.pageLimit?) {one other : Interpreter K}
    (site : other.site = one.site) (rank : other.rank = one.rank + rendition.shift)
    (fonts : rendition.agree one.fonts other.fonts) (total index : Nat) (ids : List ObjectId) :
    ∃ added otherAdded,
      (one.pagesWith first ⟨store, options⟩ total index ids).events.toList =
        one.events.toList ++ added ∧
      (other.pagesWith second ⟨store, otherOptions⟩ total index ids).events.toList =
        other.events.toList ++ otherAdded ∧
      added.filterMap rendition.event? = otherAdded.map (Event.seen rendition.look) := by
  induction ids generalizing index one other with
  | nil => exact ⟨[], [], (List.append_nil _).symm, (List.append_nil _).symm, rfl⟩
  | cons id rest ih =>
      have sameStop : stops ⟨store, otherOptions⟩ index = stops ⟨store, options⟩ index := by
        unfold stops
        rw [samePages]
      simp only [pagesWith, sameStop]
      cases stops ⟨store, options⟩ index with
      | true =>
          have renders := renders_before rendition site rank fonts (index + 1)
          have reached : (limitReached index total).page? = some (index + 1) := rfl
          obtain ⟨added, otherAdded, events, otherEvents, same, _⟩ :=
            (renders.warnPlaced reached).reports
          exact ⟨added, otherAdded, events, otherEvents, same⟩
      | false =>
          have page := renders_pageWith runs site rank fonts index id
          obtain ⟨found, otherFound, pageEvents, otherPageEvents, samePage, _⟩ := page.reports
          obtain ⟨later, otherLater, events, otherEvents, sameLater⟩ :=
            ih page.site page.rank page.fonts (index + 1)
          rw [pageEvents, List.append_assoc] at events
          rw [otherPageEvents, List.append_assoc] at otherEvents
          refine ⟨found ++ later, otherFound ++ otherLater, events, otherEvents, ?_⟩
          rw [List.filterMap_append, samePage, sameLater, List.map_append]

/-! ### Pages -/

variable (rendition : Rendition K store options otherOptions) {one other : Interpreter K}
  (site : other.site = one.site) (rank : other.rank = one.rank + rendition.shift)
  (fonts : rendition.agree one.fonts other.fonts)

include site rank fonts

theorem renders_page (index : Nat) (id : ObjectId) :
    (one.page ⟨store, options⟩ (index + 1) id).Renders rendition
      ⟨index + 1, one.events.toList, other.events.toList⟩
      (other.page ⟨store, otherOptions⟩ (index + 1) id) :=
  renders_pageWith (Interpretation.mirrors_run rendition) site rank fonts index id

theorem renders_pages (samePages : otherOptions.pageLimit? = options.pageLimit?)
    (total index : Nat) (ids : List ObjectId) :
    ∃ added otherAdded,
      (one.pages ⟨store, options⟩ total index ids).events.toList = one.events.toList ++ added ∧
      (other.pages ⟨store, otherOptions⟩ total index ids).events.toList =
        other.events.toList ++ otherAdded ∧
      added.filterMap rendition.event? = otherAdded.map (Event.seen rendition.look) := by
  rw [← pagesWith_run, ← pagesWith_run]
  exact renders_pagesWith (Interpretation.mirrors_run rendition) samePages site rank fonts total
    index ids

end PdfElements.Interpreter
