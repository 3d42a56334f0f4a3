import PdfElements.Interpretation.Stream
import PdfElements.Proofs.Content.Instructions
import PdfElements.Proofs.Interpretation.PageReport

/-! What content streams leave alone. Operators may change the graphics state, the path, the text
object and the box of a glyph; the page, the resources, the depth and whether the stream is part of
a glyph stay, and reports are only added. Only two commands change what is saved, and behind a
nested stream the operator that is executed is the same again. -/

set_option autoImplicit false

namespace PdfElements

variable {K : Type}

/-- An interpreter goes on from another one within the same page and at the same depth. -/
structure Interpreter.Continues (before after : Interpreter K) : Prop where
  resources : after.state.resources = before.state.resources
  pageResources : after.state.pageResources = before.state.pageResources
  page : after.state.page = before.state.page
  depth : after.state.depth = before.state.depth
  inGlyph : after.state.inGlyph = before.state.inGlyph
  reports : ∃ added, after.events.toList = before.events.toList ++ added ∧
    PageReport before.state.page before.rank after.rank added

/-- An interpreter goes on from another one without saving or restoring. -/
structure Interpreter.Keeps (before after : Interpreter K) : Prop
    extends before.Continues after where
  saved : after.state.graphics.saved = before.state.graphics.saved

/-- An interpreter goes on from another one at the same operator. -/
structure Interpreter.Resumes (before after : Interpreter K) : Prop
    extends before.Continues after where
  site : after.site = before.site

namespace Interpreter

namespace Continues

theorem refl (interpreter : Interpreter K) : interpreter.Continues interpreter :=
  ⟨rfl, rfl, rfl, rfl, rfl, [], by simp, .nil _ _⟩

theorem trans {first second third : Interpreter K} (left : first.Continues second)
    (right : second.Continues third) : first.Continues third := by
  obtain ⟨earlier, earlierEvents, earlierReport⟩ := left.reports
  obtain ⟨later, laterEvents, laterReport⟩ := right.reports
  rw [left.page] at laterReport
  refine ⟨right.resources.trans left.resources, right.pageResources.trans left.pageResources,
    right.page.trans left.page, right.depth.trans left.depth, right.inGlyph.trans left.inGlyph, earlier ++ later, ?_,
    earlierReport.append laterReport⟩
  rw [laterEvents, earlierEvents, List.append_assoc]

end Continues

namespace Keeps

theorem refl (interpreter : Interpreter K) : interpreter.Keeps interpreter :=
  ⟨.refl interpreter, rfl⟩

theorem trans {first second third : Interpreter K} (left : first.Keeps second)
    (right : second.Keeps third) : first.Keeps third :=
  ⟨left.toContinues.trans right.toContinues, right.saved.trans left.saved⟩

theorem foldl {Item : Type} {act : Interpreter K → Item → Interpreter K}
    (keeps : ∀ (interpreter : Interpreter K) item, interpreter.Keeps (act interpreter item))
    (items : List Item) (interpreter : Interpreter K) :
    interpreter.Keeps (items.foldl act interpreter) := by
  induction items generalizing interpreter with
  | nil => exact .refl interpreter
  | cons item rest ih => exact (keeps interpreter item).trans (ih _)

end Keeps

theorem Resumes.refl (interpreter : Interpreter K) : interpreter.Resumes interpreter :=
  ⟨.refl interpreter, rfl⟩

theorem Resumes.keeps {before after : Interpreter K} (resumes : before.Resumes after)
    (state : after.state = before.state) : before.Keeps after :=
  ⟨resumes.toContinues, by rw [state]⟩

/-- A change of the state that stays on the page, at its depth and in or out of a glyph. -/
theorem continues_modify (interpreter : Interpreter K) (change : StreamState K → StreamState K)
    (resources : (change interpreter.state).resources = interpreter.state.resources := by rfl)
    (pageResources : (change interpreter.state).pageResources = interpreter.state.pageResources :=
      by rfl)
    (page : (change interpreter.state).page = interpreter.state.page := by rfl)
    (depth : (change interpreter.state).depth = interpreter.state.depth := by rfl)
    (inGlyph : (change interpreter.state).inGlyph = interpreter.state.inGlyph := by rfl) :
    interpreter.Continues (interpreter.modify change) :=
  ⟨resources, pageResources, page, depth, inGlyph, [], by simp [modify], .nil _ _⟩

theorem keeps_modify (interpreter : Interpreter K) (change : StreamState K → StreamState K)
    (resources : (change interpreter.state).resources = interpreter.state.resources := by rfl)
    (pageResources : (change interpreter.state).pageResources = interpreter.state.pageResources :=
      by rfl)
    (page : (change interpreter.state).page = interpreter.state.page := by rfl)
    (depth : (change interpreter.state).depth = interpreter.state.depth := by rfl)
    (inGlyph : (change interpreter.state).inGlyph = interpreter.state.inGlyph := by rfl)
    (saved : (change interpreter.state).graphics.saved = interpreter.state.graphics.saved :=
      by rfl) :
    interpreter.Keeps (interpreter.modify change) :=
  ⟨interpreter.continues_modify change resources pageResources page depth inGlyph, saved⟩

theorem continues_moveTo (interpreter : Interpreter K) (site : Site) :
    interpreter.Continues (interpreter.moveTo site) :=
  ⟨rfl, rfl, rfl, rfl, rfl, [], by simp [moveTo], .nil _ _⟩

theorem keeps_send (interpreter : Interpreter K) (event : Event K)
    (report : PageReport interpreter.state.page interpreter.rank interpreter.rank [event]) :
    interpreter.Keeps (interpreter.send event) :=
  ⟨⟨rfl, rfl, rfl, rfl, rfl, [event], by simp [send], report⟩, rfl⟩

theorem keeps_warn (setting : Setting) (warning : Warning) (interpreter : Interpreter K) :
    interpreter.Keeps (interpreter.warn setting warning) := by
  unfold warn
  split
  · exact interpreter.keeps_send _ (.warning _ _ _)
  · exact .refl interpreter

theorem keeps_setFont (typeface? : Option (Typeface K)) (name : String) (size : K)
    (interpreter : Interpreter K) :
    interpreter.Keeps (interpreter.setFont typeface? name size) :=
  interpreter.keeps_modify _

theorem keeps_getStuck (interpreter : Interpreter K) : interpreter.Keeps interpreter.getStuck :=
  interpreter.keeps_send _ (.stuck _ _)

variable [Scalar K]

theorem keeps_sendShape (setting : Setting) (box : Rect K) (color : Color)
    (interpreter : Interpreter K) :
    interpreter.Keeps (interpreter.sendShape setting box color) :=
  interpreter.keeps_send _ (.shape _ ⟨interpreter.state.page, _, color⟩)

theorem keeps_sendFigure (setting : Setting) (box : Rect K) (interpreter : Interpreter K) :
    interpreter.Keeps (interpreter.sendFigure setting box) :=
  interpreter.keeps_send _ (.figure _ ⟨interpreter.state.page, _⟩)

theorem keeps_sendCharacter (setting : Setting) (text : String) (box : Rect K) (font : Font)
    (size : K) (interpreter : Interpreter K) :
    interpreter.Keeps (interpreter.sendCharacter setting text box font size) := by
  refine ⟨⟨rfl, rfl, rfl, rfl, rfl, _, Array.toList_push, ?_⟩, rfl⟩
  exact .character ⟨text, interpreter.state.page, _, font, _, _, interpreter.rank⟩

theorem keeps_paintImage (setting : Setting) (image : Stream) (interpreter : Interpreter K) :
    interpreter.Keeps (interpreter.paintImage setting image) := by
  unfold paintImage
  dsimp only
  split
  · exact interpreter.keeps_sendShape setting _ _
  · exact interpreter.keeps_sendFigure setting _
  · exact interpreter.keeps_getStuck

theorem keeps_selectFont (setting : Setting) (name : String) (size : K) (object : Located Object)
    (interpreter : Interpreter K) :
    interpreter.Keeps (interpreter.selectFont setting name size object) := by
  unfold selectFont
  split
  · next typeface fonts loaded =>
      have cached : interpreter.Keeps { interpreter with fonts } :=
        ⟨⟨rfl, rfl, rfl, rfl, rfl, [], by simp, .nil _ _⟩, rfl⟩
      exact cached.trans (keeps_setFont _ _ _ _)
  · exact (interpreter.keeps_warn setting _).trans (keeps_setFont _ _ _ _)

theorem keeps_selectNamedFont (setting : Setting) (name : String) (size : K)
    (interpreter : Interpreter K) :
    interpreter.Keeps (interpreter.selectNamedFont setting name size) := by
  unfold selectNamedFont
  dsimp only
  split
  · exact interpreter.keeps_selectFont setting _ _ _
  · exact (interpreter.keeps_warn setting _).trans (keeps_setFont _ _ _ _)

end Interpreter

/-- A way to run nested streams that leaves alone what every stream leaves alone. -/
def Runner.Resumes (nested : Runner K) : Prop :=
  ∀ (content : List UInt8) (interpreter : Interpreter K),
    interpreter.Resumes (nested content interpreter)

/-- Behind a nested stream that kept the page, its resources and the depth, all is as before. -/
theorem StreamState.leave_outer {outer inner : StreamState K}
    (pageResources : inner.pageResources = outer.pageResources)
    (page : inner.page = outer.page) (depth : inner.depth = outer.depth + 1) :
    inner.leave outer.outer = outer := by
  simp only [StreamState.leave, StreamState.outer, pageResources, page, depth, Nat.add_sub_cancel]

namespace Surroundings

/-- A nested stream that begins one level deeper gives all of the state back. -/
private theorem resumes_nested {surroundings : Surroundings K}
    (nested : surroundings.nested.Resumes) (content : List UInt8)
    (begin : StreamState K → StreamState K) (interpreter : Interpreter K)
    (pageResources : (begin interpreter.state).pageResources = interpreter.state.pageResources)
    (page : (begin interpreter.state).page = interpreter.state.page)
    (depth : (begin interpreter.state).depth = interpreter.state.depth + 1) :
    let after := (surroundings.nested content (interpreter.modify begin)).modify
      fun state => state.leave interpreter.state.outer
    interpreter.Resumes after ∧ after.state = interpreter.state := by
  have inner := nested content (interpreter.modify begin)
  have back : (surroundings.nested content (interpreter.modify begin)).state.leave
      interpreter.state.outer = interpreter.state :=
    StreamState.leave_outer (inner.pageResources.trans pageResources) (inner.page.trans page)
      (inner.depth.trans depth)
  obtain ⟨added, events, report⟩ := inner.reports
  have report : PageReport interpreter.state.page interpreter.rank
      (surroundings.nested content (interpreter.modify begin)).rank added := page ▸ report
  refine ⟨⟨⟨?_, ?_, ?_, ?_, ?_, added, events, report⟩, inner.site⟩, back⟩
  · exact congrArg StreamState.resources back
  · exact congrArg StreamState.pageResources back
  · exact congrArg StreamState.page back
  · exact congrArg StreamState.depth back
  · exact congrArg StreamState.inGlyph back

theorem keeps_report (surroundings : Surroundings K) (failure : Failure)
    (interpreter : Interpreter K) :
    interpreter.Keeps (surroundings.report failure interpreter) :=
  interpreter.keeps_warn surroundings.setting _

variable [Scalar K]

theorem resumes_drawForm {surroundings : Surroundings K} (nested : surroundings.nested.Resumes)
    (form : Located Stream) (interpreter : Interpreter K) :
    interpreter.Resumes (surroundings.drawForm form interpreter).interpreter ∧
      (surroundings.drawForm form interpreter).interpreter.state = interpreter.state := by
  unfold drawForm
  split
  · exact ⟨.refl interpreter, rfl⟩
  · exact resumes_nested nested _ _ interpreter rfl rfl rfl

theorem resumes_drawGlyph {surroundings : Surroundings K} (nested : surroundings.nested.Resumes)
    (glyphs : GlyphProcedures K) (code : Nat) (rendering : Matrix K)
    (interpreter : Interpreter K) :
    interpreter.Resumes (surroundings.drawGlyph glyphs code rendering interpreter).interpreter ∧
      (surroundings.drawGlyph glyphs code rendering interpreter).interpreter.state =
        interpreter.state := by
  unfold drawGlyph
  split
  · exact ⟨.refl interpreter, rfl⟩
  · split
    · exact ⟨.refl interpreter, rfl⟩
    · exact resumes_nested nested _ _ interpreter rfl rfl rfl

theorem keeps_drawGlyphOrReport {surroundings : Surroundings K}
    (nested : surroundings.nested.Resumes) (typeface : Typeface K) (code : Nat)
    (rendering : Matrix K) (interpreter : Interpreter K) :
    interpreter.Keeps
      (surroundings.drawGlyphOrReport typeface code rendering interpreter).2 := by
  unfold drawGlyphOrReport
  split
  · exact .refl interpreter
  · next glyphs _ =>
      obtain ⟨resumes, state⟩ := resumes_drawGlyph nested glyphs code rendering interpreter
      have drawn := resumes.keeps state
      dsimp only
      split
      · exact drawn
      · exact drawn.trans (surroundings.keeps_report _ _)

theorem keeps_showGlyph {surroundings : Surroundings K} (nested : surroundings.nested.Resumes)
    (parameters : TextParameters K) (typeface : Typeface K) (interpreter : Interpreter K)
    (glyph : Glyph K) :
    interpreter.Keeps (surroundings.showGlyph parameters typeface interpreter glyph) := by
  unfold showGlyph
  split
  · exact .refl interpreter
  · exact ((keeps_drawGlyphOrReport nested typeface glyph.code _ interpreter).trans
      (Interpreter.keeps_sendCharacter _ _ _ _ _ _)).trans
      (Interpreter.keeps_modify _ _)

theorem keeps_showString {surroundings : Surroundings K} (nested : surroundings.nested.Resumes)
    (bytes : List UInt8) (interpreter : Interpreter K) :
    interpreter.Keeps (surroundings.showString bytes interpreter).interpreter := by
  unfold showString
  dsimp only
  split
  · exact .refl interpreter
  · exact .refl interpreter
  · exact .refl interpreter
  · exact .foldl (keeps_showGlyph nested _ _) _ interpreter

omit [Scalar K] in
theorem keeps_moveText (fault : CommandFault K) (change : TextMatrices K → TextMatrices K)
    (interpreter : Interpreter K) :
    interpreter.Keeps (moveText fault change interpreter).interpreter := by
  unfold moveText
  split
  · exact .refl interpreter
  · simp only [Outcome.interpreter_done]
    exact interpreter.keeps_modify _

theorem keeps_paintPath (surroundings : Surroundings K) (paints : List Paint)
    (interpreter : Interpreter K) :
    interpreter.Keeps (surroundings.paintPath paints interpreter) := by
  have ended := interpreter.keeps_modify
    (fun state => { state.modify fun graphics => graphics.applyClip interpreter.state.path.bounds?
      with path := .empty })
  unfold paintPath
  dsimp only
  split
  · exact ended
  · exact ended.trans (.foldl (fun _ _ => Interpreter.keeps_sendShape _ _ _ _) paints _)

theorem keeps_drawExternal {surroundings : Surroundings K}
    (nested : surroundings.nested.Resumes) (name : String) (interpreter : Interpreter K) :
    interpreter.Keeps (surroundings.drawExternal name interpreter).interpreter := by
  unfold drawExternal
  split
  · exact .refl interpreter
  · dsimp only
    split
    · obtain ⟨resumes, state⟩ := resumes_drawForm nested _ interpreter
      exact resumes.keeps state
    · split
      · exact interpreter.keeps_paintImage surroundings.setting _
      · exact .refl interpreter

theorem keeps_selectState (surroundings : Surroundings K) (name : String)
    (interpreter : Interpreter K) :
    interpreter.Keeps (surroundings.selectState name interpreter).interpreter := by
  unfold selectState
  split
  · exact .refl interpreter
  · exact .refl interpreter
  · exact interpreter.keeps_selectFont surroundings.setting _ _ _

omit [Scalar K] in
theorem keeps_changeInk (role : ColorRole) (change : Ink → Ink) (interpreter : Interpreter K) :
    interpreter.Keeps (changeInk role change interpreter) :=
  interpreter.keeps_modify _

theorem keeps_execute {surroundings : Surroundings K} (nested : surroundings.nested.Resumes)
    (command : Command K) (plain : command.stacks = false) (interpreter : Interpreter K) :
    interpreter.Keeps (surroundings.execute command interpreter).interpreter := by
  cases command with
  | save | restore => cases plain
  | graphicsState name => exact surroundings.keeps_selectState name interpreter
  | paint paints => exact surroundings.keeps_paintPath paints interpreter
  | font name size => exact interpreter.keeps_selectNamedFont surroundings.setting name size
  | moveText | textMatrix | nextLine | adjust => exact keeps_moveText _ _ interpreter
  | «show» bytes => exact keeps_showString nested bytes interpreter
  | external name => exact keeps_drawExternal nested name interpreter
  | textMode | glyphWidth => exact .refl interpreter
  | selectSpace role name =>
      simp only [execute]
      split
      · simp only [Outcome.interpreter_done]
        exact keeps_changeInk role _ interpreter
      · exact .refl interpreter
      · exact interpreter.keeps_getStuck
  | deviceSpace role space =>
      exact keeps_changeInk role (fun _ => .ofSpace space) interpreter
  | components role values =>
      exact keeps_changeInk role (fun ink => ink.withComponents values) interpreter
  | glyphBox first second =>
      simp only [execute]
      split
      · simp only [Outcome.interpreter_done]
        exact interpreter.keeps_modify _
      · exact .refl interpreter
  | inlineImage image =>
      simp only [execute]
      split
      · exact .refl interpreter
      · exact interpreter.keeps_paintImage surroundings.setting _
  | _ =>
      simp only [execute, Outcome.interpreter_done]
      exact interpreter.keeps_modify _

theorem continues_execute {surroundings : Surroundings K} (nested : surroundings.nested.Resumes)
    (command : Command K) (interpreter : Interpreter K) :
    interpreter.Continues (surroundings.execute command interpreter).interpreter := by
  cases plain : command.stacks with
  | false => exact (keeps_execute nested command plain interpreter).toContinues
  | true =>
      cases command with
      | save | restore =>
          simp only [execute, Outcome.interpreter_done]
          exact interpreter.continues_modify _
      | _ => cases plain

theorem keeps_executeAll {surroundings : Surroundings K} (nested : surroundings.nested.Resumes)
    {instructions : List (Instruction K)}
    (plain : ∀ instruction ∈ instructions, instruction.command.stacks = false)
    (interpreter : Interpreter K) :
    interpreter.Keeps (surroundings.executeAll instructions interpreter).interpreter := by
  induction instructions generalizing interpreter with
  | nil => exact .refl interpreter
  | cons instruction rest ih =>
      have first := keeps_execute nested instruction.command (plain _ List.mem_cons_self) interpreter
      simp only [executeAll]
      split
      · exact first.trans (ih (fun later member => plain later (List.mem_cons_of_mem _ member)) _)
      · exact first

theorem continues_executeAll {surroundings : Surroundings K} (nested : surroundings.nested.Resumes)
    (instructions : List (Instruction K)) (interpreter : Interpreter K) :
    interpreter.Continues (surroundings.executeAll instructions interpreter).interpreter := by
  induction instructions generalizing interpreter with
  | nil => exact .refl interpreter
  | cons instruction rest ih =>
      have first := continues_execute nested instruction.command interpreter
      simp only [executeAll]
      split
      · exact first.trans (ih _)
      · exact first

theorem continues_handle {surroundings : Surroundings K} (nested : surroundings.nested.Resumes)
    (operator : Operator) (operands : List (Operand K)) (interpreter : Interpreter K) :
    interpreter.Continues (surroundings.handle operator operands interpreter).interpreter := by
  unfold handle
  split
  · exact .refl interpreter
  · exact continues_executeAll nested _ interpreter

theorem continues_dispatch {surroundings : Surroundings K} (nested : surroundings.nested.Resumes)
    (name : String) (operands : List (Operand K)) (index : Nat) (interpreter : Interpreter K) :
    interpreter.Continues (surroundings.dispatch name operands index interpreter) := by
  unfold dispatch
  split
  · exact .refl interpreter
  · next operator _ =>
      have handled := (interpreter.continues_moveTo ⟨some operator, index⟩).trans
        (continues_handle nested operator operands _)
      dsimp only
      split
      · exact handled
      · exact handled.trans (surroundings.keeps_report _ _).toContinues

end Surroundings

namespace Interpretation

variable [Scalar K]

theorem continues_step {surroundings : Surroundings K} (nested : surroundings.nested.Resumes)
    (progress : Progress K) (token : Token K) :
    progress.interpreter.Continues (step surroundings progress token).interpreter := by
  cases token with
  | operand operand => exact .refl progress.interpreter
  | operator name => exact Surroundings.continues_dispatch nested name _ _ _
  | image image =>
      exact Surroundings.continues_dispatch nested "BI"
        [.literal image.data, .dictionary image.entries] _ _

theorem continues_steps {surroundings : Surroundings K} (nested : surroundings.nested.Resumes)
    (tokens : List (Token K)) (progress : Progress K) :
    progress.interpreter.Continues
      (tokens.foldl (step surroundings) progress).interpreter := by
  induction tokens generalizing progress with
  | nil => exact .refl progress.interpreter
  | cons token rest ih => exact (continues_step nested progress token).trans (ih _)

omit [Scalar K] in
theorem continues_finish (setting : Setting) (fault? : Option Content.LexFault)
    (progress : Progress K) :
    progress.interpreter.Continues (finish setting fault? progress) := by
  cases fault? with
  | none => exact .refl progress.interpreter
  | some fault =>
      exact (progress.interpreter.continues_moveTo ⟨none, progress.index⟩).trans
        (Interpreter.keeps_warn setting _ _).toContinues

/-- A stream resumes at the operator that it was nested in, whatever its content. -/
theorem resumes_runWith (setting : Setting) {nested : Runner K} (resumes : nested.Resumes) :
    (runWith setting nested).Resumes := by
  intro content interpreter
  have inner : (Surroundings.mk setting nested).nested.Resumes := resumes
  have steps := continues_steps inner (Content.tokens content).tokens.toList ⟨interpreter, [], 0⟩
  simp only [Array.foldl_toList] at steps
  have finished := steps.trans
    (continues_finish setting (Content.tokens (K := K) content).fault? _)
  unfold runWith
  exact ⟨⟨finished.resources, finished.pageResources, finished.page, finished.depth,
    finished.inGlyph, finished.reports⟩, rfl⟩

theorem resumes_runWithin (setting : Setting) (levels : Nat) :
    (runWithin setting levels : Runner K).Resumes := by
  induction levels with
  | zero => exact fun _ interpreter => .refl interpreter
  | succ levels ih =>
      intro content interpreter
      exact resumes_runWith setting ih content interpreter

theorem resumes_run (setting : Setting) : (run setting : Runner K).Resumes :=
  fun content interpreter => resumes_runWithin setting _ content interpreter

end Interpretation

end PdfElements
