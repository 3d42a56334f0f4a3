import PdfElements.Proofs.Interpretation.Nesting
import PdfElements.Proofs.Interpretation.Provided

/-! Invariants of runs. What every single act of a run keeps, and what nested streams hand on when
they begin and when they end, holds wherever the run gets to and behind it. -/

set_option autoImplicit false

namespace PdfElements

variable {K : Type}

/-- Whether a command may run other streams. -/
def Command.nests : Command K → Bool
  | .show _ | .external _ => true
  | _ => false

/-- What a property of interpreters says of a moment. -/
def Moment.Holds (holds : Interpreter K → Prop) : Moment K → Prop
  | .between interpreter => holds interpreter
  | .begins run => holds run.start

/-- A property holds at some moments and behind them. -/
structure Throughout (holds : Interpreter K → Prop) (moments : List (Moment K))
    (behind : Interpreter K) : Prop where
  moment : ∀ moment ∈ moments, moment.Holds holds
  behind : holds behind

namespace Throughout

variable {holds : Interpreter K → Prop} {behind : Interpreter K}

theorem nothing (after : holds behind) : Throughout holds [] behind :=
  ⟨List.forall_mem_nil _, after⟩

theorem between {interpreter : Interpreter K} {later : List (Moment K)} (now : holds interpreter)
    (rest : Throughout holds later behind) :
    Throughout holds (.between interpreter :: later) behind :=
  ⟨List.forall_mem_cons.mpr ⟨now, rest.moment⟩, rest.behind⟩

theorem append {middle : Interpreter K} {front back : List (Moment K)}
    (first : Throughout holds front middle) (rest : Throughout holds back behind) :
    Throughout holds (front ++ back) behind :=
  ⟨List.forall_mem_append.mpr ⟨first.moment, rest.moment⟩, rest.behind⟩

end Throughout

variable [Scalar K]

/-- What becomes of an interpreter at a command that runs no other stream: its state changes, a font
is selected or none, or the path is painted, or, outside of glyphs, an image; or it gets stuck at a
color space. -/
inductive Surroundings.Acts (surroundings : Surroundings K) (interpreter : Interpreter K) :
    Interpreter K → Prop where
  | changes (state : StreamState K) : Acts surroundings interpreter { interpreter with state }
  | selects (name : String) (size : K) (object : Located Object) :
      (surroundings.store.Provides interpreter.state.resources →
        surroundings.store.OffersFont name object) →
      Acts surroundings interpreter (interpreter.selectFont surroundings.setting name size object)
  | selectsNone (name description : String) (size : K) :
      Acts surroundings interpreter
        ((interpreter.warnFont surroundings.setting name description).setFont none name size)
  | paints (paints : List Paint) :
      Acts surroundings interpreter (surroundings.paintPath paints interpreter)
  | pictures (image : Stream) : interpreter.state.inGlyph = false →
      Acts surroundings interpreter (interpreter.paintImage surroundings.setting image)
  | getsStuck (name : String) :
      ColorSpace.readName surroundings.store interpreter.state.resources.value name = none →
      Acts surroundings interpreter interpreter.getStuck

theorem Surroundings.acts_execute (surroundings : Surroundings K) {command : Command K}
    (plain : command.nests = false) (interpreter : Interpreter K) :
    surroundings.Acts interpreter (surroundings.execute command interpreter).interpreter := by
  cases command with
  | «show» | external => cases plain
  | graphicsState name =>
      simp only [execute, selectState]
      split
      · exact .changes _
      · exact .changes _
      · next found => exact .selects _ _ _ fun provided => offers_of_stateFont? provided found
  | font name size =>
      simp only [execute, Interpreter.selectNamedFont]
      split
      · next found => exact .selects _ _ _ fun provided => offers_of_named provided found
      · exact .selectsNone _ _ _
  | paint paints => exact .paints paints
  | moveText | textMatrix | nextLine | adjust =>
      simp only [execute, moveText]
      split
      · exact .changes _
      · exact .changes _
  | glyphBox =>
      simp only [execute]
      split
      · exact .changes _
      · exact .changes _
  | selectSpace role name =>
      simp only [execute]
      split
      · exact .changes _
      · exact .changes _
      · next endless => exact .getsStuck name endless
  | textMode | glyphWidth => exact .changes _
  | inlineImage image =>
      simp only [execute]
      split
      · exact .changes _
      · next outside => exact .pictures _ (by simpa using outside)
  | _ => exact .changes _

namespace Interpretation

inductive Boxes (holds : Interpreter K → Prop) : Rect K → Prop where
  | image (matrix : Matrix K) (left bottom right top : K) :
      Boxes holds (.image matrix left bottom right top)
  | declared {behind : Interpreter K} {box : Rect K} :
      holds behind → behind.state.glyphBox? = some box → Boxes holds box

/-- A property that every act of a run keeps. Commands are carried out, and images are painted,
where the run gets to. A stream that ends leaves the state of the stream around it. -/
structure Invariant (setting : Setting) (reached holds : Interpreter K → Prop) : Prop where
  moveTo {interpreter : Interpreter K} (site : Site) :
    holds interpreter → holds (interpreter.moveTo site)
  warn {interpreter : Interpreter K} (warning : Warning) :
    holds interpreter → holds (interpreter.warn setting warning)
  execute {interpreter : Interpreter K} {command : Command K} :
    command.nests = false → reached interpreter → holds interpreter →
      holds ((surroundings setting).execute command interpreter).interpreter
  paintImage {interpreter : Interpreter K} (image : Stream) :
    interpreter.state.inGlyph = false → reached interpreter → holds interpreter →
      holds (interpreter.paintImage setting image)
  sendCharacter {interpreter : Interpreter K} {box : Rect K} (text : String) (font : Font)
      (size : K) :
    Boxes holds box → holds interpreter →
      holds (interpreter.sendCharacter setting text box font size)
  movePen {interpreter : Interpreter K} (change : TextMatrices K → TextMatrices K) :
    holds interpreter →
      holds (interpreter.modify fun state => { state with text? := state.text?.map change })
  enterForm {interpreter : Interpreter K} (form : Located Stream) :
    (setting.store.Provides interpreter.state.resources →
      setting.store.Has (form.map Stream.object)) →
    holds interpreter → holds (interpreter.modify ((surroundings setting).formState form))
  enterGlyph {interpreter : Interpreter K} (glyphs : GlyphProcedures K)
      (procedure : Located Stream) (rendering : Matrix K) :
    setting.store.Has (procedure.map Stream.object) → holds interpreter →
      holds (interpreter.modify ((surroundings setting).glyphState glyphs procedure rendering))
  leave {outer inner : Interpreter K} :
    holds outer → holds inner → holds { inner with state := outer.state }

/-- Moments that a run gets to, where the streams that begin keep a property. -/
structure Covers (setting : Setting) (reached holds : Interpreter K → Prop)
    (moments : List (Moment K)) : Prop where
  between (interpreter : Interpreter K) : .between interpreter ∈ moments → reached interpreter
  begins (nested : NestedRun K) :
    .begins nested ∈ moments → holds nested.start → holds (run setting nested.content nested.start)

namespace Covers

variable {setting : Setting} {reached holds : Interpreter K → Prop}

theorem of_append {front back : List (Moment K)}
    (covers : Covers setting reached holds (front ++ back)) :
    Covers setting reached holds front ∧ Covers setting reached holds back :=
  ⟨⟨fun interpreter member => covers.between interpreter (List.mem_append_left _ member),
      fun nested member => covers.begins nested (List.mem_append_left _ member)⟩,
    ⟨fun interpreter member => covers.between interpreter (List.mem_append_right _ member),
      fun nested member => covers.begins nested (List.mem_append_right _ member)⟩⟩

theorem of_between {interpreter : Interpreter K} {later : List (Moment K)}
    (covers : Covers setting reached holds (.between interpreter :: later)) :
    reached interpreter ∧ Covers setting reached holds later :=
  ⟨covers.between interpreter List.mem_cons_self,
    fun interpreter member => covers.between interpreter (List.mem_cons_of_mem _ member),
    fun nested member => covers.begins nested (List.mem_cons_of_mem _ member)⟩

end Covers

namespace Invariant

variable {setting : Setting} {reached holds : Interpreter K → Prop}

/-! ### Nested streams -/

private theorem nested (invariant : Invariant setting reached holds) {nested : NestedRun K}
    {outer : Interpreter K}
    (covers : Covers setting reached holds ((some nested).map Moment.begins).toList)
    (now : holds outer) (begins : holds nested.start) :
    let behind := (Interpretation.run setting nested.content nested.start).modify fun state =>
      state.leave outer.state.outer
    behind.state = outer.state →
      Throughout holds ((some nested).map Moment.begins).toList behind := by
  intro behind restored
  have left := invariant.leave now (covers.begins nested List.mem_cons_self begins)
  refine ⟨List.forall_mem_singleton.mpr begins, ?_⟩
  rw [← restored] at left
  exact left

theorem drawForm (invariant : Invariant setting reached holds) (form : Located Stream)
    {interpreter : Interpreter K}
    (has : setting.store.Provides interpreter.state.resources →
      setting.store.Has (form.map Stream.object))
    (covers : Covers setting reached holds
      (((surroundings setting).formRun? form interpreter).map .begins).toList)
    (now : holds interpreter) :
    Throughout holds (((surroundings setting).formRun? form interpreter).map .begins).toList
      ((surroundings setting).drawForm form interpreter).interpreter := by
  have runs : (surroundings (K := K) setting).nested.Resumes := resumes_run setting
  have restored := (Surroundings.resumes_drawForm runs form interpreter).2
  unfold Surroundings.formRun? Surroundings.drawForm at *
  cases found : (surroundings (K := K) setting).formContent form.value interpreter.state.depth with
  | error fault => exact .nothing now
  | ok content =>
      rw [found] at covers restored
      exact invariant.nested covers now (invariant.enterForm form has now) restored

theorem drawGlyph (invariant : Invariant setting reached holds) (glyphs : GlyphProcedures K)
    (code : Nat) (rendering : Matrix K) {interpreter : Interpreter K}
    (covers : Covers setting reached holds
      (((surroundings setting).glyphRun? glyphs code rendering interpreter).map .begins).toList)
    (now : holds interpreter) :
    Throughout holds
      (((surroundings setting).glyphRun? glyphs code rendering interpreter).map .begins).toList
      ((surroundings setting).drawGlyph glyphs code rendering interpreter).interpreter := by
  have runs : (surroundings (K := K) setting).nested.Resumes := resumes_run setting
  have restored := (Surroundings.resumes_drawGlyph runs glyphs code rendering interpreter).2
  unfold Surroundings.glyphRun? Surroundings.drawGlyph at *
  cases procedure : glyphs.procedure? code with
  | none => exact .nothing now
  | some id =>
      cases found : (surroundings (K := K) setting).glyphContent id interpreter.state.depth with
      | error fault => simpa only [found] using .nothing now
      | ok read =>
          simp only [procedure, found] at covers restored ⊢
          exact invariant.nested covers now
            (invariant.enterGlyph glyphs read.1 rendering (Surroundings.has_of_glyphContent found)
              now) restored

theorem declared (invariant : Invariant setting reached holds) (glyphs : GlyphProcedures K)
    (code : Nat) (rendering : Matrix K) {interpreter : Interpreter K}
    (covers : Covers setting reached holds
      (((surroundings setting).glyphRun? glyphs code rendering interpreter).map .begins).toList)
    (now : holds interpreter) {box : Rect K}
    (drawn : ((surroundings setting).drawGlyph glyphs code rendering interpreter).result =
      .ok (some box)) : Boxes holds box := by
  unfold Surroundings.glyphRun? Surroundings.drawGlyph at *
  cases procedure : glyphs.procedure? code with
  | none => simp [procedure] at drawn
  | some id =>
      cases found : (surroundings (K := K) setting).glyphContent id interpreter.state.depth with
      | error fault => simp [procedure, found] at drawn
      | ok read =>
          simp only [procedure, found] at covers drawn
          have behind := covers.begins _ List.mem_cons_self
            (invariant.enterGlyph glyphs read.1 rendering (Surroundings.has_of_glyphContent found)
              now)
          exact .declared behind (Except.ok.inj drawn)

/-! ### Text -/

theorem showGlyph (invariant : Invariant setting reached holds) (parameters : TextParameters K)
    (typeface : Typeface K) (glyph : Glyph K) {interpreter : Interpreter K}
    (covers : Covers setting reached holds
      (((surroundings setting).shownRun? parameters typeface interpreter glyph).map
        .begins).toList)
    (now : holds interpreter) :
    Throughout holds
      (((surroundings setting).shownRun? parameters typeface interpreter glyph).map .begins).toList
      ((surroundings setting).showGlyph parameters typeface interpreter glyph) := by
  unfold Surroundings.shownRun? Surroundings.showGlyph Surroundings.drawGlyphOrReport at *
  cases opened : interpreter.state.text? with
  | none => exact .nothing now
  | some matrices =>
      cases procedures : typeface.glyphs? with
      | none =>
          exact .nothing (invariant.movePen _ (invariant.sendCharacter _ _ _ (.image ..) now))
      | some glyphs =>
          simp only [opened, procedures] at covers ⊢
          obtain ⟨moment, drawn⟩ := invariant.drawGlyph glyphs glyph.code _ covers now
          refine ⟨moment, invariant.movePen _ (invariant.sendCharacter _ _ _ ?_ ?_)⟩
          · split
            · next declared? result =>
                cases declared? with
                | none => exact .image ..
                | some box => exact invariant.declared glyphs glyph.code _ covers now result
            · exact .image ..
          · split
            · exact drawn
            · exact invariant.warn _ drawn

theorem showGlyphs (invariant : Invariant setting reached holds) (parameters : TextParameters K)
    (typeface : Typeface K) (glyphs : List (Glyph K)) {interpreter : Interpreter K}
    (covers : Covers setting reached holds
      ((surroundings setting).glyphMoments parameters typeface glyphs interpreter))
    (now : holds interpreter) :
    Throughout holds ((surroundings setting).glyphMoments parameters typeface glyphs interpreter)
      (glyphs.foldl ((surroundings setting).showGlyph parameters typeface) interpreter) := by
  induction glyphs generalizing interpreter with
  | nil => exact .between now (.nothing now)
  | cons glyph rest ih =>
      obtain ⟨_, covers⟩ := covers.of_between
      obtain ⟨coversFirst, coversRest⟩ := covers.of_append
      have shown := invariant.showGlyph parameters typeface glyph coversFirst now
      exact .between now (shown.append (ih coversRest shown.behind))

/-! ### Commands -/

theorem command (invariant : Invariant setting reached holds) (command : Command K)
    {interpreter : Interpreter K}
    (covers : Covers setting reached holds
      ((surroundings setting).commandMoments command interpreter))
    (here : reached interpreter) (now : holds interpreter) :
    Throughout holds ((surroundings setting).commandMoments command interpreter)
      ((surroundings setting).execute command interpreter).interpreter := by
  cases command with
  | «show» bytes =>
      simp only [Surroundings.commandMoments, Surroundings.execute, Surroundings.showString] at *
      cases opened : interpreter.state.text? with
      | none => exact .nothing now
      | some matrices =>
          cases selected : interpreter.state.current.text.typeface? with
          | none => cases interpreter.state.current.text.fontName? <;> exact .nothing now
          | some typeface =>
              simp only [opened, selected] at covers
              exact invariant.showGlyphs _ typeface _ covers now
  | external name =>
      simp only [Surroundings.commandMoments, Surroundings.execute,
        Surroundings.drawExternal] at *
      cases found : (surroundings (K := K) setting).external? interpreter.state.resources name with
      | error fault => exact .nothing now
      | ok stream =>
          have has (provided : (surroundings (K := K) setting).store.Provides
              interpreter.state.resources) := Surroundings.has_of_external? provided found
          simp only [found] at covers ⊢
          split at covers
          · next form =>
              rw [if_pos form, if_pos form]
              exact invariant.drawForm stream has covers now
          · next other =>
              rw [if_neg other, if_neg other]
              split
              · next image =>
                  have outside := (Bool.and_eq_true_iff.mp image).2
                  exact .nothing (invariant.paintImage stream.value (by simpa using outside) here now)
              · exact .nothing now
  | _ => exact .nothing (invariant.execute rfl here now)

theorem executeAll (invariant : Invariant setting reached holds)
    (instructions : List (Instruction K)) {interpreter : Interpreter K}
    (covers : Covers setting reached holds
      ((surroundings setting).instructionMoments instructions interpreter))
    (now : holds interpreter) :
    Throughout holds ((surroundings setting).instructionMoments instructions interpreter)
      ((surroundings setting).executeAll instructions interpreter).interpreter := by
  induction instructions generalizing interpreter with
  | nil => exact .between now (.nothing now)
  | cons instruction rest ih =>
      obtain ⟨here, covers⟩ := covers.of_between
      obtain ⟨coversFirst, coversRest⟩ := covers.of_append
      have done := invariant.command instruction.command coversFirst here now
      simp only [Surroundings.instructionMoments, Surroundings.executeAll]
      refine .between now (done.append ?_)
      cases result : ((surroundings setting).execute instruction.command interpreter).result with
      | ok =>
          simp only [result] at coversRest
          exact ih coversRest done.behind
      | error fault => exact .between done.behind (.nothing done.behind)

theorem dispatch (invariant : Invariant setting reached holds) (name : String)
    (operands : List (Operand K)) (index : Nat) {interpreter : Interpreter K}
    (covers : Covers setting reached holds
      ((surroundings setting).dispatchMoments name operands index interpreter))
    (now : holds interpreter) :
    Throughout holds ((surroundings setting).dispatchMoments name operands index interpreter)
      ((surroundings setting).dispatch name operands index interpreter) := by
  unfold Surroundings.dispatchMoments Surroundings.dispatch Surroundings.handle at *
  cases known : Operator.ofName? name with
  | none => exact .nothing now
  | some operator =>
      have placed := invariant.moveTo ⟨some operator, index⟩ now
      cases read : operator.read operands with
      | error fault => simpa only [read] using .nothing (invariant.warn _ placed)
      | ok instructions =>
          simp only [known, read] at covers ⊢
          obtain ⟨moment, done⟩ := invariant.executeAll instructions covers placed
          refine ⟨moment, ?_⟩
          split
          · exact done
          · exact invariant.warn _ done

/-! ### Streams -/

theorem step (invariant : Invariant setting reached holds) (token : Token K)
    {progress : Progress K}
    (covers : Covers setting reached holds (tokenMoments (surroundings setting) progress token))
    (now : holds progress.interpreter) :
    Throughout holds (tokenMoments (surroundings setting) progress token)
      (Interpretation.step (surroundings setting) progress token).interpreter := by
  cases token with
  | operand operand => exact .nothing now
  | operator name => exact invariant.dispatch name _ _ covers now
  | image image =>
      exact invariant.dispatch "BI" [.literal image.data, .dictionary image.entries] _ covers now

theorem steps (invariant : Invariant setting reached holds) (tokens : List (Token K))
    {progress : Progress K}
    (covers : Covers setting reached holds (tokensMoments (surroundings setting) tokens progress))
    (now : holds progress.interpreter) :
    Throughout holds (tokensMoments (surroundings setting) tokens progress)
      (tokens.foldl (Interpretation.step (surroundings setting)) progress).interpreter := by
  induction tokens generalizing progress with
  | nil => exact .between now (.nothing now)
  | cons token rest ih =>
      obtain ⟨_, covers⟩ := covers.of_between
      obtain ⟨coversFirst, coversRest⟩ := covers.of_append
      have stepped := invariant.step token coversFirst now
      exact .between now (stepped.append (ih coversRest stepped.behind))

theorem stream (invariant : Invariant setting reached holds) {content : List UInt8}
    {start : Interpreter K}
    (covers : Covers setting reached holds (moments (surroundings setting) content start))
    (now : holds start) :
    Throughout holds (moments (surroundings setting) content start)
      (run setting content start) := by
  let progress : Progress K := ⟨start, [], 0⟩
  have begins : holds progress.interpreter := now
  obtain ⟨moment, stepped⟩ := invariant.steps (Content.tokens content).tokens.toList covers begins
  refine ⟨moment, ?_⟩
  rw [run_eq]
  unfold runWith
  refine invariant.moveTo _ ?_
  simp only [Array.foldl_toList] at stepped
  unfold finish
  split
  · exact stepped
  · exact invariant.warn _ (invariant.moveTo _ stepped)

/-- An invariant that holds as a stream begins holds behind it, and wherever its run gets to on the
way, also in the streams within it. -/
theorem run (invariant : Invariant setting reached holds) {content : List UInt8}
    {start : Interpreter K}
    (reaches : ∀ around interpreter, GetsTo setting content start around interpreter →
      reached interpreter)
    (begins : holds start) :
    (∀ around interpreter, GetsTo setting content start around interpreter → holds interpreter) ∧
      holds (Interpretation.run setting content start) := by
  -- Streams within streams end, so that those within a stream are settled before it.
  suffices settled : ∀ nested : NestedRun K,
      (∀ around interpreter, GetsTo setting nested.content nested.start around interpreter →
        reached interpreter) →
      holds nested.start →
      (∀ around interpreter, GetsTo setting nested.content nested.start around interpreter →
        holds interpreter) ∧
        holds (Interpretation.run setting nested.content nested.start) from
    settled ⟨.form, content, start⟩ reaches begins
  intro nested
  induction nested using (wellFounded_begins (K := K) setting).induction with
  | h outer ih =>
      intro reaches begins
      have within (inner : NestedRun K)
          (member : .begins inner ∈ moments (surroundings setting) outer.content outer.start) :=
        ih inner member fun _ _ getsTo => reaches _ _ (.within member getsTo)
      have covers : Covers setting reached holds
          (moments (surroundings setting) outer.content outer.start) :=
        ⟨fun interpreter member => reaches [] interpreter (.here member),
          fun inner member begins => (within inner member begins).2⟩
      obtain ⟨moment, behind⟩ := invariant.stream covers begins
      refine ⟨?_, behind⟩
      intro around interpreter getsTo
      cases getsTo with
      | here member => exact moment _ member
      | within member getsTo =>
          exact (within _ member (moment _ member)).1 _ interpreter getsTo

end Invariant

end Interpretation

end PdfElements
