import PdfElements.Proofs.Interpretation.Rendition

/-! Interpreters that mirror each other go on to do so whatever they execute. -/

set_option autoImplicit false

namespace PdfElements

variable {K : Type} [Scalar K] {store : ObjectStore} {options otherOptions : ExtractionOptions}

/-- The same result, and interpreters behind it that mirror each other. -/
structure Outcome.Mirrors {Fault Result : Type}
    (rendition : Rendition K store options otherOptions) (turn : PageTurn K)
    (one other : Outcome Fault K Result) : Prop where
  result : other.result = one.result
  interpreter : one.interpreter.Mirrors rendition turn other.interpreter

/-- Two ways to run streams under which interpreters mirror each other. -/
def Runner.Mirrors (rendition : Rendition K store options otherOptions)
    (first second : Runner K) : Prop :=
  ∀ {turn : PageTurn K} {one other : Interpreter K} (content : List UInt8),
    one.Mirrors rendition turn other →
    (first content one).Mirrors rendition turn (second content other)

theorem Outcome.Mirrors.done {Fault : Type} {rendition : Rendition K store options otherOptions}
    {turn : PageTurn K} {one other : Interpreter K} (mirrors : one.Mirrors rendition turn other) :
    (Outcome.done one : Outcome Fault K Unit).Mirrors rendition turn (.done other) :=
  ⟨rfl, mirrors⟩

namespace Surroundings

variable {rendition : Rendition K store options otherOptions} {first second : Runner K}
  {turn : PageTurn K} {one other : Interpreter K}

omit [Scalar K] in
private theorem allow_eq (same : otherOptions.depthLimit = options.depthLimit)
    (first second : Runner K) (what : NestedStream) (depth : Nat) :
    (Surroundings.mk ⟨store, otherOptions⟩ second).allow what depth =
      (Surroundings.mk ⟨store, options⟩ first).allow what depth := by
  unfold allow
  rw [same]

theorem mirrors_drawForm (nested : first.Mirrors rendition second)
    (mirrors : one.Mirrors rendition turn other) {form : Located Stream}
    (has : store.Has (form.map Stream.object)) :
    ((Surroundings.mk ⟨store, options⟩ first).drawForm form one).Mirrors rendition turn
      ((Surroundings.mk ⟨store, otherOptions⟩ second).drawForm form other) := by
  have content : (Surroundings.mk ⟨store, otherOptions⟩ second).formContent form.value
        other.state.depth =
      (Surroundings.mk ⟨store, options⟩ first).formContent form.value one.state.depth := by
    unfold formContent
    rw [mirrors.reads StreamState.depth (fun _ => rfl), allow_eq rendition.depthLimit first second]
  unfold drawForm
  rw [content]
  cases (Surroundings.mk ⟨store, options⟩ first).formContent form.value one.state.depth with
  | error fault => exact ⟨rfl, mirrors⟩
  | ok content =>
      let surroundings : Surroundings K := ⟨⟨store, options⟩, first⟩
      have provided : surroundings.store.Provides (surroundings.formState form one.state).resources :=
        surroundings.provides_formState has mirrors.pageResources
      have entered := mirrors.enter (surroundings.formState form) provided (fun _ => rfl) rfl rfl
      exact .done ((nested content entered).leave mirrors)

theorem mirrors_drawGlyph (nested : first.Mirrors rendition second)
    (mirrors : one.Mirrors rendition turn other) (glyphs : GlyphProcedures K) (code : Nat)
    (rendering : Matrix K) :
    ((Surroundings.mk ⟨store, options⟩ first).drawGlyph glyphs code rendering one).Mirrors
      rendition turn
      ((Surroundings.mk ⟨store, otherOptions⟩ second).drawGlyph glyphs code rendering other) := by
  unfold drawGlyph
  cases procedure : glyphs.procedure? code with
  | none => exact ⟨rfl, mirrors⟩
  | some id =>
      have content : (Surroundings.mk ⟨store, otherOptions⟩ second).glyphContent id
            other.state.depth =
          (Surroundings.mk ⟨store, options⟩ first).glyphContent id one.state.depth := by
        unfold glyphContent
        rw [mirrors.reads StreamState.depth (fun _ => rfl),
          allow_eq rendition.depthLimit first second]
        rfl
      dsimp only
      rw [content]
      cases found : (Surroundings.mk ⟨store, options⟩ first).glyphContent id one.state.depth with
      | error fault => exact ⟨rfl, mirrors⟩
      | ok procedure =>
          let surroundings : Surroundings K := ⟨⟨store, options⟩, first⟩
          have has : surroundings.store.Has (procedure.1.map Stream.object) :=
            has_of_glyphContent found
          have provided : surroundings.store.Provides
              (surroundings.glyphState glyphs procedure.1 rendering one.state).resources :=
            surroundings.provides_glyphState has glyphs rendering mirrors.resources
          have entered := mirrors.enter (surroundings.glyphState glyphs procedure.1 rendering)
            provided (fun _ => rfl) rfl rfl
          have inner := nested procedure.2 entered
          have declared := inner.reads StreamState.glyphBox? (fun _ => rfl)
          exact ⟨congrArg Except.ok declared, inner.leave mirrors⟩

theorem mirrors_drawGlyphOrReport (nested : first.Mirrors rendition second)
    (mirrors : one.Mirrors rendition turn other) {typeface otherTypeface : Typeface K}
    (same : otherTypeface.seen rendition.look = typeface.seen rendition.look) (code : Nat)
    (rendering : Matrix K) :
    ((Surroundings.mk ⟨store, otherOptions⟩ second).drawGlyphOrReport otherTypeface code rendering
          other).1 =
        ((Surroundings.mk ⟨store, options⟩ first).drawGlyphOrReport typeface code rendering one).1 ∧
      ((Surroundings.mk ⟨store, options⟩ first).drawGlyphOrReport typeface code rendering
          one).2.Mirrors rendition turn
        ((Surroundings.mk ⟨store, otherOptions⟩ second).drawGlyphOrReport otherTypeface code
          rendering other).2 := by
  unfold drawGlyphOrReport
  rw [reads_of_seen same Typeface.glyphs? (fun _ => rfl)]
  cases typeface.glyphs? with
  | none => exact ⟨rfl, mirrors⟩
  | some glyphs =>
      have drawn := mirrors_drawGlyph nested mirrors glyphs code rendering
      dsimp only
      rw [drawn.result]
      cases ((Surroundings.mk ⟨store, options⟩ first).drawGlyph glyphs code rendering
          one).result with
      | ok declared? => exact ⟨rfl, drawn.interpreter⟩
      | error fault => exact ⟨rfl, drawn.interpreter.warn _ rfl⟩

theorem mirrors_showGlyph (nested : first.Mirrors rendition second)
    (mirrors : one.Mirrors rendition turn other) {parameters otherParameters : TextParameters K}
    (sameParameters : otherParameters.seen rendition.look = parameters.seen rendition.look)
    {typeface otherTypeface : Typeface K}
    (same : otherTypeface.seen rendition.look = typeface.seen rendition.look) (glyph : Glyph K) :
    ((Surroundings.mk ⟨store, options⟩ first).showGlyph parameters typeface one glyph).Mirrors
      rendition turn
      ((Surroundings.mk ⟨store, otherOptions⟩ second).showGlyph otherParameters otherTypeface other
        glyph) := by
  unfold showGlyph
  rw [mirrors.reads StreamState.text? (fun _ => rfl),
    mirrors.reads (·.current.matrix) (fun _ => rfl),
    reads_of_seen sameParameters TextParameters.fontMatrix (fun _ => rfl),
    reads_of_seen sameParameters TextParameters.fontSize (fun _ => rfl),
    reads_of_seen sameParameters (TextParameters.advance · glyph) (fun _ => rfl),
    reads_of_seen same Typeface.ascent (fun _ => rfl),
    reads_of_seen same Typeface.descent (fun _ => rfl)]
  cases one.state.text? with
  | none => exact mirrors
  | some matrices =>
      obtain ⟨box, drawn⟩ := mirrors_drawGlyphOrReport nested mirrors same glyph.code
        ((parameters.fontMatrix.concat matrices.text).concat one.state.current.matrix)
      dsimp only
      rw [box]
      exact (drawn.sendCharacter glyph.text _ (congrArg Typeface.font same) _).modify _
        (fun _ => rfl) rfl rfl rfl

theorem mirrors_showString (nested : first.Mirrors rendition second)
    (mirrors : one.Mirrors rendition turn other) (bytes : List UInt8) :
    ((Surroundings.mk ⟨store, options⟩ first).showString bytes one).Mirrors rendition turn
      ((Surroundings.mk ⟨store, otherOptions⟩ second).showString bytes other) := by
  have parameters : other.state.current.text.seen rendition.look =
      one.state.current.text.seen rendition.look :=
    congrArg (fun state => state.current.text) mirrors.state
  have typefaces : other.state.current.text.typeface?.map (Typeface.seen rendition.look) =
      one.state.current.text.typeface?.map (Typeface.seen rendition.look) :=
    congrArg TextParameters.typeface? parameters
  unfold showString
  dsimp only
  rw [mirrors.reads StreamState.text? (fun _ => rfl),
    mirrors.reads (·.current.text.fontName?) (fun _ => rfl)]
  cases one.state.text? with
  | none => exact ⟨rfl, mirrors⟩
  | some matrices =>
      cases selected : one.state.current.text.typeface? with
      | none =>
          rw [selected, Option.map_none, Option.map_eq_none_iff] at typefaces
          rw [typefaces]
          cases one.state.current.text.fontName? <;> exact ⟨rfl, mirrors⟩
      | some typeface =>
          rw [selected] at typefaces
          obtain ⟨otherTypeface, otherSelected, same⟩ := Option.map_eq_some_iff.mp typefaces
          rw [otherSelected]
          dsimp only
          rw [reads_of_seen same (Typeface.decode · bytes) (fun _ => rfl)]
          refine .done (Interpreter.Mirrors.foldl ?_ _ mirrors)
          intro reached otherReached glyph mirrors
          exact mirrors_showGlyph nested mirrors parameters same glyph

theorem mirrors_moveText (mirrors : one.Mirrors rendition turn other) (fault : CommandFault K)
    (change : TextMatrices K → TextMatrices K) :
    (moveText fault change one).Mirrors rendition turn (moveText fault change other) := by
  unfold moveText
  rw [mirrors.reads StreamState.text? (fun _ => rfl)]
  cases one.state.text? with
  | none => exact ⟨rfl, mirrors⟩
  | some matrices => exact .done (mirrors.modify _ (fun _ => rfl) rfl rfl rfl)

theorem mirrors_paintPath (first second : Runner K) (mirrors : one.Mirrors rendition turn other)
    (paints : List Paint) :
    ((Surroundings.mk ⟨store, options⟩ first).paintPath paints one).Mirrors rendition turn
      ((Surroundings.mk ⟨store, otherOptions⟩ second).paintPath paints other) := by
  unfold paintPath
  rw [mirrors.reads StreamState.path (fun _ => rfl)]
  have blind (state : StreamState K) := congrArg
    (fun current => { state with
      graphics := ⟨current, state.graphics.saved.map (GraphicsState.seen rendition.look)⟩
      path := .empty })
    (GraphicsState.seen_applyClip rendition.look state.current one.state.path.bounds?)
  have ended := mirrors.modify (fun state => { state.modify fun graphics =>
    graphics.applyClip one.state.path.bounds? with path := .empty }) blind rfl rfl rfl
  cases bounded : one.state.path.bounds? with
  | none =>
      rw [bounded] at ended
      exact ended
  | some bounds =>
      rw [bounded] at ended
      dsimp only
      refine Interpreter.Mirrors.foldl ?_ paints ended
      intro reached otherReached paint mirrors
      rw [ended.reads (fun state => (state.current.ink paint).color) (fun _ => rfl)]
      exact mirrors.sendShape bounds _

theorem mirrors_selectState (first second : Runner K)
    (mirrors : one.Mirrors rendition turn other) (name : String) :
    ((Surroundings.mk ⟨store, options⟩ first).selectState name one).Mirrors rendition turn
      ((Surroundings.mk ⟨store, otherOptions⟩ second).selectState name other) := by
  have found : (Surroundings.mk ⟨store, otherOptions⟩ second).stateFont? (K := K)
        other.state.resources name =
      (Surroundings.mk ⟨store, options⟩ first).stateFont? one.state.resources name := by
    rw [mirrors.reads StreamState.resources (fun _ => rfl)]
    rfl
  unfold selectState
  rw [found]
  cases selected : (Surroundings.mk ⟨store, options⟩ first).stateFont? (K := K)
      one.state.resources name with
  | error fault => exact ⟨rfl, mirrors⟩
  | ok font? =>
      cases font? with
      | none => exact .done mirrors
      | some font =>
          let surroundings : Surroundings K := ⟨⟨store, options⟩, first⟩
          have provided : surroundings.store.Provides one.state.resources := mirrors.resources
          exact .done (mirrors.selectFont _ _ (offers_of_stateFont? provided selected))

theorem mirrors_drawExternal (nested : first.Mirrors rendition second)
    (mirrors : one.Mirrors rendition turn other) (name : String) :
    ((Surroundings.mk ⟨store, options⟩ first).drawExternal name one).Mirrors rendition turn
      ((Surroundings.mk ⟨store, otherOptions⟩ second).drawExternal name other) := by
  have found : (Surroundings.mk ⟨store, otherOptions⟩ second).external? (K := K)
        other.state.resources name =
      (Surroundings.mk ⟨store, options⟩ first).external? one.state.resources name := by
    rw [mirrors.reads StreamState.resources (fun _ => rfl)]
    rfl
  unfold drawExternal
  rw [found]
  cases named : (Surroundings.mk ⟨store, options⟩ first).external? (K := K)
      one.state.resources name with
  | error fault => exact ⟨rfl, mirrors⟩
  | ok stream =>
      let surroundings : Surroundings K := ⟨⟨store, options⟩, first⟩
      have provided : surroundings.store.Provides one.state.resources := mirrors.resources
      have drawn := mirrors_drawForm nested mirrors (has_of_external? provided named)
      dsimp only
      split
      · exact ⟨congrArg (Except.mapError CommandFault.nested) drawn.result, drawn.interpreter⟩
      · rw [mirrors.reads StreamState.inGlyph (fun _ => rfl)]
        split
        · exact .done (mirrors.paintImage stream.value)
        · exact .done mirrors

theorem mirrors_execute (nested : first.Mirrors rendition second)
    (mirrors : one.Mirrors rendition turn other) (command : Command K) :
    ((Surroundings.mk ⟨store, options⟩ first).execute command one).Mirrors rendition turn
      ((Surroundings.mk ⟨store, otherOptions⟩ second).execute command other) := by
  cases command with
  | restore =>
      refine .done (mirrors.modify _ (fun state => ?_) rfl rfl rfl)
      exact congrArg (fun graphics => { state with graphics })
        (GraphicsStack.seen_restore rendition.look state.graphics)
  | save | concat | move | line | curve | curveFromCurrent | curveToTarget | closePath
  | rectangle | clip | beginText | endText | characterSpacing | wordSpacing | horizontalScaling
  | leading | rise => exact .done (mirrors.modify _ (fun _ => rfl) rfl rfl rfl)
  | textMode | glyphWidth => exact .done mirrors
  | graphicsState name => exact mirrors_selectState first second mirrors name
  | paint paints => exact .done (mirrors_paintPath first second mirrors paints)
  | font name size => exact .done (mirrors.selectNamedFont name size)
  | moveText | textMatrix => exact mirrors_moveText mirrors _ _
  | nextLine =>
      simp only [execute]
      rw [mirrors.reads (·.current.text.leading) (fun _ => rfl)]
      exact mirrors_moveText mirrors _ _
  | adjust amount =>
      simp only [execute]
      rw [mirrors.reads (·.current.text.adjustment amount) (fun _ => rfl)]
      exact mirrors_moveText mirrors _ _
  | «show» bytes => exact mirrors_showString nested mirrors bytes
  | glyphBox corner opposite =>
      simp only [execute]
      rw [mirrors.reads StreamState.inGlyph (fun _ => rfl),
        mirrors.reads StreamState.initialMatrix (fun _ => rfl)]
      cases one.state.inGlyph with
      | false => exact .done mirrors
      | true => exact .done (mirrors.modify _ (fun _ => rfl) rfl rfl rfl)
  | selectSpace role name =>
      simp only [execute]
      rw [mirrors.reads StreamState.resources (fun _ => rfl)]
      split
      · cases role <;> exact .done (mirrors.modify _ (fun _ => rfl) rfl rfl rfl)
      · exact ⟨rfl, mirrors⟩
      · exact .done mirrors.getStuck
  | deviceSpace role | components role =>
      cases role <;> exact .done (mirrors.modify _ (fun _ => rfl) rfl rfl rfl)
  | external name => exact mirrors_drawExternal nested mirrors name
  | inlineImage image =>
      simp only [execute]
      rw [mirrors.reads StreamState.inGlyph (fun _ => rfl)]
      cases one.state.inGlyph with
      | false => exact .done (mirrors.paintImage _)
      | true => exact .done mirrors

theorem mirrors_executeAll (nested : first.Mirrors rendition second)
    (mirrors : one.Mirrors rendition turn other) (instructions : List (Instruction K)) :
    ((Surroundings.mk ⟨store, options⟩ first).executeAll instructions one).Mirrors rendition turn
      ((Surroundings.mk ⟨store, otherOptions⟩ second).executeAll instructions other) := by
  induction instructions generalizing one other with
  | nil => exact .done mirrors
  | cons instruction rest ih =>
      have executed := mirrors_execute nested mirrors instruction.command
      simp only [executeAll]
      rw [executed.result]
      cases ((Surroundings.mk ⟨store, options⟩ first).execute instruction.command one).result with
      | ok => exact ih executed.interpreter
      | error fault => exact ⟨rfl, executed.interpreter⟩

theorem mirrors_handle (nested : first.Mirrors rendition second)
    (mirrors : one.Mirrors rendition turn other) (operator : Operator)
    (operands : List (Operand K)) :
    ((Surroundings.mk ⟨store, options⟩ first).handle operator operands one).Mirrors rendition turn
      ((Surroundings.mk ⟨store, otherOptions⟩ second).handle operator operands other) := by
  unfold handle
  cases operator.read operands with
  | error fault => exact ⟨rfl, mirrors⟩
  | ok instructions => exact mirrors_executeAll nested mirrors instructions

theorem mirrors_dispatch (nested : first.Mirrors rendition second)
    (mirrors : one.Mirrors rendition turn other) (name : String) (operands : List (Operand K))
    (index : Nat) :
    ((Surroundings.mk ⟨store, options⟩ first).dispatch name operands index one).Mirrors rendition
      turn ((Surroundings.mk ⟨store, otherOptions⟩ second).dispatch name operands index other) := by
  unfold dispatch
  cases Operator.ofName? name with
  | none => exact mirrors
  | some operator =>
      have handled :=
        mirrors_handle nested (mirrors.moveTo ⟨some operator, index⟩) operator operands
      dsimp only
      rw [handled.result]
      cases ((Surroundings.mk ⟨store, options⟩ first).handle operator operands
          (one.moveTo ⟨some operator, index⟩)).result with
      | ok => exact handled.interpreter
      | error failure => exact handled.interpreter.warn _ rfl

end Surroundings

namespace Interpretation

variable {rendition : Rendition K store options otherOptions} {first second : Runner K}
  {turn : PageTurn K}

structure Progress.Mirrors (rendition : Rendition K store options otherOptions)
    (turn : PageTurn K) (one other : Progress K) : Prop where
  interpreter : one.interpreter.Mirrors rendition turn other.interpreter
  operands : other.operands = one.operands
  index : other.index = one.index

theorem mirrors_step (nested : first.Mirrors rendition second) {one other : Progress K}
    (mirrors : one.Mirrors rendition turn other) (token : Token K) :
    (step ⟨⟨store, options⟩, first⟩ one token).Mirrors rendition turn
      (step ⟨⟨store, otherOptions⟩, second⟩ other token) := by
  cases token with
  | operand operand =>
      exact ⟨mirrors.interpreter, congrArg (operand :: ·) mirrors.operands, mirrors.index⟩
  | operator name =>
      simp only [step, mirrors.operands, mirrors.index]
      exact ⟨Surroundings.mirrors_dispatch nested mirrors.interpreter _ _ _, rfl, rfl⟩
  | image image =>
      simp only [step, mirrors.index]
      exact ⟨Surroundings.mirrors_dispatch nested mirrors.interpreter "BI"
        [.literal image.data, .dictionary image.entries] one.index, rfl, rfl⟩

theorem Progress.Mirrors.foldl {act otherAct : Progress K → Token K → Progress K}
    (same : ∀ {one other : Progress K}, one.Mirrors rendition turn other → ∀ token,
      (act one token).Mirrors rendition turn (otherAct other token))
    {one other : Progress K} (mirrors : one.Mirrors rendition turn other)
    (tokens : List (Token K)) :
    (tokens.foldl act one).Mirrors rendition turn (tokens.foldl otherAct other) := by
  induction tokens generalizing one other with
  | nil =>
      simp only [List.foldl_nil]
      exact mirrors
  | cons token rest ih =>
      simp only [List.foldl_cons]
      exact ih (same mirrors token)

theorem Progress.Mirrors.finish {one other : Progress K}
    (mirrors : one.Mirrors rendition turn other) (fault? : Option Content.LexFault)
    {site otherSite : Site} (sameSite : otherSite = site) :
    ((Interpretation.finish ⟨store, options⟩ fault? one).moveTo site).Mirrors rendition turn
      ((Interpretation.finish ⟨store, otherOptions⟩ fault? other).moveTo otherSite) := by
  rw [sameSite]
  refine Interpreter.Mirrors.moveTo ?_ site
  unfold Interpretation.finish
  cases fault? with
  | none => exact mirrors.interpreter
  | some fault =>
      rw [mirrors.index]
      exact (mirrors.interpreter.moveTo _).warn _ rfl

theorem mirrors_runWith (nested : first.Mirrors rendition second) :
    (runWith ⟨store, options⟩ first).Mirrors rendition (runWith ⟨store, otherOptions⟩ second) := by
  intro turn one other content mirrors
  let lexed : Content.Lexed K := Content.tokens content
  have started : Progress.Mirrors rendition turn ⟨one, [], 0⟩ ⟨other, [], 0⟩ := ⟨mirrors, rfl, rfl⟩
  have reached := started.foldl (mirrors_step nested) lexed.tokens.toList
  simp only [Array.foldl_toList] at reached
  exact reached.finish lexed.fault? mirrors.site

theorem mirrors_runWithin (levels : Nat) :
    (runWithin ⟨store, options⟩ levels).Mirrors rendition
      (runWithin ⟨store, otherOptions⟩ levels) := by
  induction levels with
  | zero =>
      intro turn one other content mirrors
      exact mirrors
  | succ levels ih =>
      intro turn one other content mirrors
      exact mirrors_runWith ih content mirrors

/-- Streams with all that is nested in them, of the same document and with the same limit. -/
theorem mirrors_run (rendition : Rendition K store options otherOptions) :
    (run ⟨store, options⟩).Mirrors rendition (run ⟨store, otherOptions⟩) := by
  intro turn one other content mirrors
  simp only [run]
  rw [mirrors.reads StreamState.depth (fun _ => rfl), rendition.depthLimit]
  exact mirrors_runWithin _ content mirrors

end Interpretation

end PdfElements
