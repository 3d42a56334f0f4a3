import PdfElements.Proofs.Interpretation.Alike

/-! Where an operator stands in its stream is told in warnings and matters to nothing else. Two
interpreters that differ in such places only go on to differ in nothing else, whatever they
execute. -/

set_option autoImplicit false

namespace PdfElements

variable {K : Type}

def Event.unplaced : Event K → Event K
  | .warning problem => .warning { problem with index? := none }
  | event => event

/-- The same state and the same reports but for the places that warnings name. -/
structure Interpreter.Parallels (one other : Interpreter K) : Prop where
  state : other.state = one.state
  fonts : other.fonts = one.fonts
  rank : other.rank = one.rank
  events : other.events.toList.map Event.unplaced = one.events.toList.map Event.unplaced

/-- Two such interpreters that execute the same operator. -/
structure Interpreter.Abreast (one other : Interpreter K) : Prop
    extends Interpreter.Parallels one other where
  operator : other.site.operator? = one.site.operator?

structure Outcome.Abreast {Fault Result : Type} (one other : Outcome Fault K Result) : Prop where
  result : other.result = one.result
  interpreter : one.interpreter.Abreast other.interpreter

def Runner.KeepsAbreast (nested : Runner K) : Prop :=
  ∀ {one other : Interpreter K} (content : List UInt8), one.Abreast other →
    (nested content one).Abreast (nested content other)

theorem Outcome.Abreast.done {Fault : Type} {one other : Interpreter K}
    (abreast : one.Abreast other) :
    (Outcome.done one : Outcome Fault K Unit).Abreast (.done other) :=
  ⟨rfl, abreast⟩

namespace Interpreter

variable {one other : Interpreter K}

theorem Parallels.refl (interpreter : Interpreter K) : interpreter.Parallels interpreter :=
  ⟨rfl, rfl, rfl, rfl⟩

theorem Parallels.beside (parallels : one.Parallels other) (site : Site) :
    one.Parallels (other.moveTo site) :=
  ⟨parallels.state, parallels.fonts, parallels.rank, parallels.events⟩

theorem Parallels.moveTo (parallels : one.Parallels other) {site otherSite : Site}
    (same : otherSite.operator? = site.operator?) :
    (one.moveTo site).Abreast (other.moveTo otherSite) :=
  ⟨⟨parallels.state, parallels.fonts, parallels.rank, parallels.events⟩, same⟩

namespace Abreast

theorem modify (abreast : one.Abreast other) (change : StreamState K → StreamState K) :
    (one.modify change).Abreast (other.modify change) :=
  { abreast with state := congrArg change abreast.state }

theorem send (abreast : one.Abreast other) {event otherEvent : Event K}
    (same : otherEvent.unplaced = event.unplaced) :
    (one.send event).Abreast (other.send otherEvent) where
  state := abreast.state
  fonts := abreast.fonts
  rank := abreast.rank
  operator := abreast.operator
  events := by
    simp only [Interpreter.send, Array.toList_push, List.map_append, List.map_cons, List.map_nil]
    rw [abreast.events, same]

theorem unplaced_locate (abreast : one.Abreast other) (warning : Warning) :
    { other.locate warning with index? := none } = { one.locate warning with index? := none } := by
  unfold Interpreter.locate
  dsimp only
  rw [abreast.state, abreast.operator]
  cases warning.operator? with
  | some name => rfl
  | none => cases one.site.operator? <;> rfl

theorem warn (abreast : one.Abreast other) (setting : Setting) (warning : Warning) :
    (one.warn setting warning).Abreast (other.warn setting warning) := by
  unfold Interpreter.warn
  split
  · exact abreast.send (congrArg Event.warning (abreast.unplaced_locate warning))
  · exact abreast

theorem foldl {Item : Type} {act : Interpreter K → Item → Interpreter K}
    (same : ∀ {one other : Interpreter K} item, one.Abreast other →
      (act one item).Abreast (act other item))
    (items : List Item) (abreast : one.Abreast other) :
    (items.foldl act one).Abreast (items.foldl act other) := by
  induction items generalizing one other with
  | nil => exact abreast
  | cons item rest ih => exact ih (same item abreast)

theorem getStuck (abreast : one.Abreast other) : one.getStuck.Abreast other.getStuck := by
  unfold Interpreter.getStuck
  rw [abreast.state]
  exact abreast.send rfl

variable [Scalar K]

theorem sendShape (abreast : one.Abreast other) (setting : Setting) (box : Rect K) (color : Color) :
    (one.sendShape setting box color).Abreast (other.sendShape setting box color) := by
  unfold Interpreter.sendShape
  rw [abreast.state]
  exact abreast.send rfl

theorem sendFigure (abreast : one.Abreast other) (setting : Setting) (box : Rect K) :
    (one.sendFigure setting box).Abreast (other.sendFigure setting box) := by
  unfold Interpreter.sendFigure
  rw [abreast.state]
  exact abreast.send rfl

theorem sendCharacter (abreast : one.Abreast other) (setting : Setting) (text : String)
    (box : Rect K) (font : Font) (size : K) :
    (one.sendCharacter setting text box font size).Abreast
      (other.sendCharacter setting text box font size) := by
  unfold Interpreter.sendCharacter
  rw [abreast.state, abreast.rank]
  exact { abreast.send rfl with rank := rfl }

theorem paintImage (abreast : one.Abreast other) (setting : Setting) (image : Stream) :
    (one.paintImage setting image).Abreast (other.paintImage setting image) := by
  unfold Interpreter.paintImage
  rw [abreast.state]
  dsimp only
  split
  · exact abreast.sendShape setting _ _
  · exact abreast.sendFigure setting _
  · exact abreast.getStuck

theorem selectFont (abreast : one.Abreast other) (setting : Setting) (name : String) (size : K)
    (object : Located Object) :
    (one.selectFont setting name size object).Abreast
      (other.selectFont setting name size object) := by
  unfold Interpreter.selectFont
  rw [abreast.fonts]
  cases one.fonts.load setting.store name object with
  | ok loaded =>
      have cached : Interpreter.Abreast { one with fonts := loaded.2 }
          { other with fonts := loaded.2 } := { abreast with fonts := rfl }
      exact cached.modify _
  | error fault => exact (abreast.warn setting _).modify _

theorem selectNamedFont (abreast : one.Abreast other) (setting : Setting) (name : String)
    (size : K) :
    (one.selectNamedFont setting name size).Abreast
      (other.selectNamedFont setting name size) := by
  unfold Interpreter.selectNamedFont
  rw [abreast.state]
  dsimp only
  split
  · exact abreast.selectFont setting name size _
  · exact (abreast.warn setting _).modify _

end Abreast

end Interpreter

namespace Surroundings

variable {surroundings : Surroundings K} {one other : Interpreter K}

theorem abreast_nested (nested : surroundings.nested.KeepsAbreast) (abreast : one.Abreast other)
    (content : List UInt8) (enter : StreamState K → StreamState K) :
    let inner := surroundings.nested content (one.modify enter)
    let otherInner := surroundings.nested content (other.modify enter)
    otherInner.state = inner.state ∧
      (inner.modify fun state => state.leave one.state.outer).Abreast
        (otherInner.modify fun state => state.leave other.state.outer) := by
  have entered := nested content (abreast.modify enter)
  rw [abreast.state]
  exact ⟨entered.state, entered.modify _⟩

theorem abreast_moveText (abreast : one.Abreast other) (fault : CommandFault K)
    (change : TextMatrices K → TextMatrices K) :
    (moveText fault change one).Abreast (moveText fault change other) := by
  unfold moveText
  rw [abreast.state]
  split
  · exact ⟨rfl, abreast⟩
  · exact .done (abreast.modify _)

variable [Scalar K]

theorem abreast_drawForm (nested : surroundings.nested.KeepsAbreast) (abreast : one.Abreast other)
    (form : Located Stream) :
    (surroundings.drawForm form one).Abreast (surroundings.drawForm form other) := by
  unfold drawForm
  rw [abreast.state]
  cases surroundings.formContent form.value one.state.depth with
  | error fault => exact ⟨rfl, abreast⟩
  | ok content =>
      have drawn := abreast_nested nested abreast content (surroundings.formState form)
      rw [abreast.state] at drawn
      exact .done drawn.2

theorem abreast_drawGlyph (nested : surroundings.nested.KeepsAbreast) (abreast : one.Abreast other)
    (glyphs : GlyphProcedures K) (code : Nat) (rendering : Matrix K) :
    (surroundings.drawGlyph glyphs code rendering one).Abreast
      (surroundings.drawGlyph glyphs code rendering other) := by
  unfold drawGlyph
  rw [abreast.state]
  cases glyphs.procedure? code with
  | none => exact ⟨rfl, abreast⟩
  | some id =>
      dsimp only
      cases surroundings.glyphContent id one.state.depth with
      | error fault => exact ⟨rfl, abreast⟩
      | ok found =>
          have drawn := abreast_nested nested abreast found.2
            (surroundings.glyphState glyphs found.1 rendering)
          rw [abreast.state] at drawn
          exact ⟨congrArg (fun state => Except.ok state.glyphBox?) drawn.1, drawn.2⟩

theorem abreast_drawGlyphOrReport (nested : surroundings.nested.KeepsAbreast)
    (abreast : one.Abreast other) (typeface : Typeface K) (code : Nat) (rendering : Matrix K) :
    (surroundings.drawGlyphOrReport typeface code rendering other).1 =
        (surroundings.drawGlyphOrReport typeface code rendering one).1 ∧
      (surroundings.drawGlyphOrReport typeface code rendering one).2.Abreast
        (surroundings.drawGlyphOrReport typeface code rendering other).2 := by
  unfold drawGlyphOrReport
  cases typeface.glyphs? with
  | none => exact ⟨rfl, abreast⟩
  | some glyphs =>
      have drawn := abreast_drawGlyph nested abreast glyphs code rendering
      dsimp only
      rw [drawn.result]
      cases (surroundings.drawGlyph glyphs code rendering one).result with
      | ok declared? => exact ⟨rfl, drawn.interpreter⟩
      | error fault => exact ⟨rfl, drawn.interpreter.warn _ _⟩

theorem abreast_showGlyph (nested : surroundings.nested.KeepsAbreast)
    (abreast : one.Abreast other) (parameters : TextParameters K) (typeface : Typeface K)
    (glyph : Glyph K) :
    (surroundings.showGlyph parameters typeface one glyph).Abreast
      (surroundings.showGlyph parameters typeface other glyph) := by
  unfold showGlyph
  rw [abreast.state]
  cases one.state.text? with
  | none => exact abreast
  | some matrices =>
      obtain ⟨box, drawn⟩ := abreast_drawGlyphOrReport nested abreast typeface glyph.code
        ((parameters.fontMatrix.concat matrices.text).concat one.state.current.matrix)
      dsimp only
      rw [box]
      exact (drawn.sendCharacter _ _ _ _ _).modify _

theorem abreast_showString (nested : surroundings.nested.KeepsAbreast)
    (abreast : one.Abreast other) (bytes : List UInt8) :
    (surroundings.showString bytes one).Abreast (surroundings.showString bytes other) := by
  unfold showString
  rw [abreast.state]
  dsimp only
  split
  · exact ⟨rfl, abreast⟩
  · exact ⟨rfl, abreast⟩
  · exact ⟨rfl, abreast⟩
  · refine .done (Interpreter.Abreast.foldl ?_ _ abreast)
    intro reached otherReached glyph abreast
    exact abreast_showGlyph nested abreast _ _ glyph

theorem abreast_paintPath (abreast : one.Abreast other) (paints : List Paint) :
    (surroundings.paintPath paints one).Abreast (surroundings.paintPath paints other) := by
  unfold paintPath
  rw [abreast.state]
  have ended := abreast.modify fun state => { state.modify fun graphics =>
    graphics.applyClip one.state.path.bounds? with path := .empty }
  dsimp only
  split
  case h_1 => exact ended
  case h_2 =>
    rw [ended.state]
    refine Interpreter.Abreast.foldl ?_ paints ended
    intro reached otherReached paint abreast
    exact abreast.sendShape _ _ _

theorem abreast_selectState (abreast : one.Abreast other) (name : String) :
    (surroundings.selectState name one).Abreast (surroundings.selectState name other) := by
  unfold selectState
  rw [abreast.state]
  split
  · exact ⟨rfl, abreast⟩
  · exact .done abreast
  · exact .done (abreast.selectFont _ _ _ _)

theorem abreast_drawExternal (nested : surroundings.nested.KeepsAbreast)
    (abreast : one.Abreast other) (name : String) :
    (surroundings.drawExternal name one).Abreast (surroundings.drawExternal name other) := by
  unfold drawExternal
  rw [abreast.state]
  cases surroundings.external? (K := K) one.state.resources name with
  | error fault => exact ⟨rfl, abreast⟩
  | ok stream =>
      have drawn := abreast_drawForm nested abreast stream
      dsimp only
      split
      · exact ⟨congrArg (Except.mapError CommandFault.nested) drawn.result, drawn.interpreter⟩
      · split
        · exact .done (abreast.paintImage _ _)
        · exact .done abreast

theorem abreast_execute (nested : surroundings.nested.KeepsAbreast) (abreast : one.Abreast other)
    (command : Command K) :
    (surroundings.execute command one).Abreast (surroundings.execute command other) := by
  cases command with
  | save | restore | concat | move | line | curve | curveFromCurrent | curveToTarget | closePath
  | rectangle | clip | beginText | endText | characterSpacing | wordSpacing | horizontalScaling
  | leading | rise | deviceSpace | components => exact .done (abreast.modify _)
  | textMode | glyphWidth => exact .done abreast
  | graphicsState name => exact abreast_selectState abreast name
  | paint paints => exact .done (abreast_paintPath abreast paints)
  | font name size => exact .done (abreast.selectNamedFont _ name size)
  | moveText | textMatrix => exact abreast_moveText abreast _ _
  | nextLine | adjust =>
      simp only [execute]
      rw [abreast.state]
      exact abreast_moveText abreast _ _
  | «show» bytes => exact abreast_showString nested abreast bytes
  | glyphBox corner opposite =>
      simp only [execute]
      rw [abreast.state]
      split
      · exact .done (abreast.modify _)
      · exact .done abreast
  | selectSpace role name =>
      simp only [execute]
      rw [abreast.state]
      split
      · exact .done (abreast.modify _)
      · exact ⟨rfl, abreast⟩
      · exact .done abreast.getStuck
  | external name => exact abreast_drawExternal nested abreast name
  | inlineImage image =>
      simp only [execute]
      rw [abreast.state]
      split
      · exact .done abreast
      · exact .done (abreast.paintImage _ _)

theorem abreast_executeAll (nested : surroundings.nested.KeepsAbreast)
    (abreast : one.Abreast other) (instructions : List (Instruction K)) :
    (surroundings.executeAll instructions one).Abreast
      (surroundings.executeAll instructions other) := by
  induction instructions generalizing one other with
  | nil => exact .done abreast
  | cons instruction rest ih =>
      have executed := abreast_execute nested abreast instruction.command
      simp only [executeAll]
      rw [executed.result]
      cases (surroundings.execute instruction.command one).result with
      | ok => exact ih executed.interpreter
      | error fault => exact ⟨rfl, executed.interpreter⟩

theorem abreast_handle (nested : surroundings.nested.KeepsAbreast) (abreast : one.Abreast other)
    (operator : Operator) (operands : List (Operand K)) :
    (surroundings.handle operator operands one).Abreast
      (surroundings.handle operator operands other) := by
  unfold handle
  cases operator.read operands with
  | error fault => exact ⟨rfl, abreast⟩
  | ok instructions => exact abreast_executeAll nested abreast instructions

theorem parallels_dispatch (nested : surroundings.nested.KeepsAbreast)
    (parallels : one.Parallels other) (name : String) (operands : List (Operand K))
    (index otherIndex : Nat) :
    (surroundings.dispatch name operands index one).Parallels
      (surroundings.dispatch name operands otherIndex other) := by
  unfold dispatch
  cases Operator.ofName? name with
  -- The operators before need not be the same, so the interpreters are not abreast here.
  | none => exact parallels
  | some operator =>
      have moved : (one.moveTo ⟨some operator, index⟩).Abreast
          (other.moveTo ⟨some operator, otherIndex⟩) := parallels.moveTo rfl
      have handled := abreast_handle nested moved operator operands
      dsimp only
      rw [handled.result]
      cases (surroundings.handle operator operands
          (one.moveTo ⟨some operator, index⟩)).result with
      | ok => exact handled.interpreter.toParallels
      | error failure => exact (handled.interpreter.warn _ _).toParallels

end Surroundings

namespace Interpretation

/-- Interpreters that differ in places only, with the same operands at hand. -/
structure Progress.Parallels (one other : Progress K) : Prop where
  interpreter : one.interpreter.Parallels other.interpreter
  operands : other.operands = one.operands

theorem parallels_finish {one other : Progress K} (parallels : one.Parallels other)
    (setting : Setting) (fault? : Option Content.LexFault) :
    (finish setting fault? one).Parallels (finish setting fault? other) := by
  unfold finish
  cases fault? with
  | none => exact parallels.interpreter
  | some fault =>
      have moved : (one.interpreter.moveTo ⟨none, one.index⟩).Abreast
          (other.interpreter.moveTo ⟨none, other.index⟩) := parallels.interpreter.moveTo rfl
      exact (moved.warn setting (truncation fault)).toParallels

variable [Scalar K] {surroundings : Surroundings K}

theorem parallels_step (nested : surroundings.nested.KeepsAbreast) {one other : Progress K}
    (parallels : one.Parallels other) (token : Token K) :
    (step surroundings one token).Parallels (step surroundings other token) := by
  cases token with
  | operand operand => exact ⟨parallels.interpreter, congrArg (operand :: ·) parallels.operands⟩
  | operator name =>
      simp only [step, parallels.operands]
      exact ⟨Surroundings.parallels_dispatch nested parallels.interpreter name _ _ _, rfl⟩
  | image image =>
      exact ⟨Surroundings.parallels_dispatch nested parallels.interpreter "BI" _ _ _, rfl⟩

theorem parallels_steps (nested : surroundings.nested.KeepsAbreast) {one other : Progress K}
    (parallels : one.Parallels other) (tokens : List (Token K)) :
    (tokens.foldl (step surroundings) one).Parallels (tokens.foldl (step surroundings) other) := by
  induction tokens generalizing one other with
  | nil => exact parallels
  | cons token rest ih => exact ih (parallels_step nested parallels token)

theorem keepsAbreast_runWith (setting : Setting) {nested : Runner K}
    (keeps : nested.KeepsAbreast) : (runWith setting nested).KeepsAbreast := by
  intro one other content abreast
  let lexed : Content.Lexed K := Content.tokens content
  have started : Progress.Parallels ⟨one, [], 0⟩ ⟨other, [], 0⟩ := ⟨abreast.toParallels, rfl⟩
  have reached : Progress.Parallels (lexed.tokens.toList.foldl (step ⟨setting, nested⟩) _)
      (lexed.tokens.toList.foldl (step ⟨setting, nested⟩) _) :=
    parallels_steps keeps started lexed.tokens.toList
  rw [Array.foldl_toList, Array.foldl_toList] at reached
  exact (parallels_finish reached setting lexed.fault?).moveTo abreast.operator

theorem keepsAbreast_runWithin (setting : Setting) (levels : Nat) :
    (runWithin setting levels : Runner K).KeepsAbreast := by
  induction levels with
  | zero =>
      intro one other content abreast
      exact abreast
  | succ levels ih =>
      intro one other content abreast
      exact keepsAbreast_runWith setting ih content abreast

theorem keepsAbreast_run (setting : Setting) : (run setting : Runner K).KeepsAbreast := by
  intro one other content abreast
  simp only [run]
  rw [abreast.state]
  exact keepsAbreast_runWithin setting _ content abreast

end Interpretation

end PdfElements
