import PdfElements.Extraction
import PdfElements.Proofs.Interpretation.Continuation

/-! The events of a whole run: page by page, each between its start and its end, with the glyphs
numbered across all pages. -/

set_option autoImplicit false

namespace PdfElements

variable {K : Type}

/-- The events of so many successive pages from a number on. Each page starts once and ends once,
what is between lies on it, and outside of pages there are only warnings. -/
inductive Bracketed : (first count : Nat) → List (Event K) → Prop where
  | done (first : Nat) : Bracketed first 0 []
  | warning {first count : Nat} {later : List (Event K)} (problem : Warning) :
      Bracketed first count later → Bracketed first count (.warning problem :: later)
  | page {number count : Nat} {body later : List (Event K)} (width height : K) :
      (∀ event ∈ body, event.LiesOn number) → Bracketed (number + 1) count later →
      Bracketed number (count + 1)
        (.pageStart number width height :: (body ++ .pageEnd number :: later))

theorem Bracketed.append {first count more : Nat} {earlier later : List (Event K)}
    (left : Bracketed first count earlier) (right : Bracketed (first + count) more later) :
    Bracketed first (count + more) (earlier ++ later) := by
  induction left with
  | done first => simpa using right
  | warning problem _ ih => exact .warning problem (ih right)
  | @page number count body rest width height onPage _ ih =>
      have joined := ih (by rwa [show number + 1 + count = number + (count + 1) by omega])
      rw [show count + 1 + more = count + more + 1 by omega]
      simpa using Bracketed.page width height onPage joined

/-- What an interpreter reports from another one on: so many pages with all their glyphs. -/
def Interpreter.Reports (first count : Nat) (before after : Interpreter K) : Prop :=
  ∃ added, after.events.toList = before.events.toList ++ added ∧ Bracketed first count added ∧
    Ranked before.rank after.rank added

namespace Interpreter

theorem Reports.refl (first : Nat) (interpreter : Interpreter K) :
    Reports first 0 interpreter interpreter :=
  ⟨[], by simp, .done first, .silent _ rfl⟩

theorem Reports.trans {first count more : Nat} {before middle after : Interpreter K}
    (left : Reports first count before middle)
    (right : Reports (first + count) more middle after) :
    Reports first (count + more) before after := by
  obtain ⟨earlier, earlierEvents, earlierPages, earlierRanks⟩ := left
  obtain ⟨later, laterEvents, laterPages, laterRanks⟩ := right
  refine ⟨earlier ++ later, ?_, earlierPages.append laterPages, earlierRanks.append laterRanks⟩
  rw [laterEvents, earlierEvents, List.append_assoc]

theorem reports_warn (first : Nat) (setting : Setting) (warning : Warning)
    (interpreter : Interpreter K) :
    Reports first 0 interpreter (interpreter.warn setting warning) := by
  unfold warn
  split
  · exact ⟨[.warning (interpreter.locate warning)], Array.toList_push,
      .warning _ (.done first), .silent _ rfl⟩
  · exact .refl first interpreter

private theorem reports_warnings (first : Nat) (setting : Setting) {Problem : Type}
    (warning : Problem → Warning) (problems : List Problem) (interpreter : Interpreter K) :
    Reports first 0 interpreter
      (problems.foldl (fun interpreter problem => interpreter.warn setting (warning problem))
        interpreter) := by
  induction problems generalizing interpreter with
  | nil => exact .refl first interpreter
  | cons problem rest ih => exact (reports_warn first setting _ interpreter).trans (ih _)

variable [Scalar K]

/-- The interpreter as the content of a page begins. -/
def startPage (number : Nat) (source : PageSource K) (interpreter : Interpreter K) :
    Interpreter K :=
  { interpreter with state := .initial number source.cropBox source.resources }.send
    (.pageStart number source.mediaBox.width source.mediaBox.height)

theorem runPage_eq (setting : Setting) (number : Nat) (source : PageSource K)
    (interpreter : Interpreter K) :
    interpreter.runPage setting number source =
      (Interpretation.run setting source.content (interpreter.startPage number source)).send
        (.pageEnd number) := rfl

theorem reports_runPage (setting : Setting) (number : Nat) (source : PageSource K)
    (interpreter : Interpreter K) :
    Reports number 1 interpreter (interpreter.runPage setting number source) := by
  let started := { interpreter with
      state := .initial number source.cropBox source.resources }.send
    (.pageStart number source.mediaBox.width source.mediaBox.height)
  have runs : started.Continues (Interpretation.run setting source.content started) :=
    (Interpretation.resumes_run setting source.content started).toContinues
  obtain ⟨body, events, report⟩ := runs.reports
  have startEvents : started.events.toList = interpreter.events.toList ++
      [.pageStart number source.mediaBox.width source.mediaBox.height] := Array.toList_push
  have ranked : Ranked interpreter.rank (interpreter.runPage setting number source).rank
      ([.pageStart number source.mediaBox.width source.mediaBox.height] ++ body ++
        [.pageEnd number]) :=
    ((Ranked.silent interpreter.rank rfl).append report.toRanked).append (.silent _ rfl)
  refine ⟨_, ?_, ?_, ranked⟩
  · have ended : (interpreter.runPage setting number source).events.toList =
        (Interpretation.run setting source.content started).events.toList ++ [.pageEnd number] :=
      Array.toList_push
    rw [ended, events, startEvents]
    simp only [List.append_assoc]
  · have onPage : ∀ event ∈ body, event.LiesOn number := report.onPage
    simpa using Bracketed.page source.mediaBox.width source.mediaBox.height onPage
      (.done (number + 1))

theorem reports_page (setting : Setting) (number : Nat) (id : ObjectId)
    (interpreter : Interpreter K) :
    Reports number 1 interpreter (interpreter.page setting number id) := by
  have warned := reports_warnings number setting (defect number)
    (readPage (K := K) setting id).2 interpreter
  exact warned.trans (reports_runPage setting number _ _)

end Interpreter

/-- The setting without a limit on pages. -/
def Setting.unlimited (setting : Setting) : Setting :=
  { setting with options := { setting.options with pageLimit? := none } }

/-- How many of the pages behind so many others are interpreted. -/
def Setting.wanted (setting : Setting) (index available : Nat) : Nat :=
  min available ((setting.options.pageLimit?.map fun limit => limit - index).getD available)

namespace Surroundings

variable [Scalar K]

theorem executeAll_unlimited (setting : Setting) (nested : Runner K)
    (instructions : List (Instruction K)) (interpreter : Interpreter K) :
    (Surroundings.mk setting.unlimited nested).executeAll instructions interpreter =
      (Surroundings.mk setting nested).executeAll instructions interpreter := by
  induction instructions generalizing interpreter with
  | nil => rfl
  | cons instruction rest ih =>
      have first : (Surroundings.mk setting.unlimited nested).execute instruction.command
          interpreter = (Surroundings.mk setting nested).execute instruction.command interpreter := by
        cases instruction.command <;> rfl
      simp only [executeAll, first, ih]

theorem dispatch_unlimited (setting : Setting) (nested : Runner K) (name : String)
    (operands : List (Operand K)) (index : Nat) (interpreter : Interpreter K) :
    (Surroundings.mk setting.unlimited nested).dispatch name operands index interpreter =
      (Surroundings.mk setting nested).dispatch name operands index interpreter := by
  unfold dispatch handle
  simp only [executeAll_unlimited]
  rfl

end Surroundings

namespace Interpretation

variable [Scalar K]

theorem runWith_unlimited (setting : Setting) (nested : Runner K) :
    runWith setting.unlimited nested = runWith setting nested := by
  have steps : step ⟨setting.unlimited, nested⟩ = step ⟨setting, nested⟩ := by
    funext progress token
    cases token <;> simp only [step, Surroundings.dispatch_unlimited]
  funext content interpreter
  simp only [runWith, steps]
  rfl

theorem run_unlimited (setting : Setting) :
    (run setting.unlimited : Runner K) = run setting := by
  have within (levels : Nat) :
      (runWithin setting.unlimited levels : Runner K) = runWithin setting levels := by
    induction levels with
    | zero => rfl
    | succ levels ih =>
        funext content interpreter
        simp only [runWithin, ih, runWith_unlimited]
  funext content interpreter
  simp only [run, within]
  rfl

end Interpretation

namespace Interpreter

variable [Scalar K]

theorem page_unlimited (setting : Setting) (number : Nat) (id : ObjectId)
    (interpreter : Interpreter K) :
    interpreter.page setting.unlimited number id = interpreter.page setting number id := by
  simp only [page, runPage, Interpretation.run_unlimited]
  rfl

private theorem pages_unlimited_cons (setting : Setting) (total index : Nat) (id : ObjectId)
    (rest : List ObjectId) (interpreter : Interpreter K) :
    interpreter.pages setting.unlimited total index (id :: rest) =
      (interpreter.page setting (index + 1) id).pages setting.unlimited total (index + 1) rest := by
  rw [← page_unlimited]
  rfl

theorem pages_append (setting : Setting) (total index : Nat) (front back : List ObjectId)
    (interpreter : Interpreter K) :
    interpreter.pages setting.unlimited total index (front ++ back) =
      (interpreter.pages setting.unlimited total index front).pages setting.unlimited total
        (index + front.length) back := by
  induction front generalizing index interpreter with
  | nil => rfl
  | cons id rest ih =>
      have forward : index + (rest.length + 1) = index + 1 + rest.length := by omega
      rw [List.cons_append, List.length_cons, forward, pages_unlimited_cons, ih,
        pages_unlimited_cons]

theorem reports_pages (setting : Setting) (total index : Nat) (ids : List ObjectId)
    (interpreter : Interpreter K) :
    Reports (index + 1) ids.length interpreter
      (interpreter.pages setting.unlimited total index ids) := by
  induction ids generalizing index interpreter with
  | nil => exact .refl _ interpreter
  | cons id rest ih =>
      have first := reports_page setting (index + 1) id interpreter
      have both := first.trans (ih (index + 1) _)
      rwa [← pages_unlimited_cons, Nat.add_comm 1] at both

private theorem wanted_stopped {setting : Setting} {index : Nat} (available : Nat)
    (stopped : stops setting index = true) : setting.wanted index available = 0 := by
  unfold stops at stopped
  unfold Setting.wanted
  cases limited : setting.options.pageLimit? with
  | none => simp [limited] at stopped
  | some limit =>
      simp only [limited, decide_eq_true_eq] at stopped
      simp [Nat.sub_eq_zero_of_le stopped]

private theorem wanted_succ {setting : Setting} {index : Nat} (available : Nat)
    (goesOn : stops setting index = false) :
    setting.wanted index (available + 1) = setting.wanted (index + 1) available + 1 := by
  unfold stops at goesOn
  unfold Setting.wanted
  cases limited : setting.options.pageLimit? with
  | none => simp
  | some limit =>
      simp only [limited, decide_eq_false_iff_not] at goesOn
      simp only [Option.map_some, Option.getD_some]
      omega

/-- A run with a limit on pages is the run over the first of them, with a warning at most. -/
theorem pages_limited (setting : Setting) (total index : Nat) (ids : List ObjectId)
    (interpreter : Interpreter K) :
    Reports (index + 1 + setting.wanted index ids.length) 0
      (interpreter.pages setting.unlimited total index
        (ids.take (setting.wanted index ids.length)))
      (interpreter.pages setting total index ids) := by
  induction ids generalizing index interpreter with
  | nil => exact .refl _ interpreter
  | cons id rest ih =>
      cases stopped : stops setting index with
      | true =>
          simp only [wanted_stopped _ stopped, List.take_zero, pages, stopped, if_true]
          exact reports_warn _ setting _ interpreter
      | false =>
          have page := ih (index + 1) (interpreter.page setting (index + 1) id)
          simp only [List.length_cons, wanted_succ _ stopped, List.take_succ_cons,
            pages_unlimited_cons, pages, stopped]
          rwa [show index + 1 + (setting.wanted (index + 1) rest.length + 1) =
            index + 1 + 1 + setting.wanted (index + 1) rest.length by omega]

end Interpreter

end PdfElements
