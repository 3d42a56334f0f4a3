import PdfElements.Proofs.Interpretation.Continuation

/-! The moments of a run: where its interpreter is between the parts of what it carries out, and
the streams that begin within it. They follow the run part by part. What runs depends on nothing
else than these moments, and each stream begins one level below the limit on nesting. -/

set_option autoImplicit false

namespace PdfElements

variable {K : Type}

/-- A stream that runs within another one, and the interpreter at its start. -/
structure NestedRun (K : Type) where
  kind : NestedStream
  content : List UInt8
  start : Interpreter K

inductive Moment (K : Type) where
  | between (interpreter : Interpreter K)
  | begins (run : NestedRun K)

/-! ### What begins and what is refused -/

namespace Surroundings

theorem allow_ok {surroundings : Surroundings K} {what : NestedStream} {depth : Nat}
    (allowed : surroundings.allow what depth = .ok ()) :
    depth < surroundings.setting.options.depthLimit := by
  unfold allow at allowed
  dsimp only at allowed
  split at allowed
  · cases allowed
  · next within => exact Nat.lt_of_not_le within

theorem allow_tooDeep {surroundings : Surroundings K} {depth : Nat}
    (refused : surroundings.setting.options.depthLimit ≤ depth) (what : NestedStream) :
    surroundings.allow what depth =
      .error (.tooDeep what surroundings.setting.options.depthLimit) := if_pos refused

theorem allow_within {surroundings : Surroundings K} {depth : Nat}
    (within : depth < surroundings.setting.options.depthLimit) (what : NestedStream) :
    surroundings.allow what depth = .ok () := if_neg (Nat.not_le_of_lt within)

theorem formContent_ok {surroundings : Surroundings K} {form : Stream} {depth : Nat}
    {content : List UInt8} (found : surroundings.formContent form depth = .ok content) :
    depth < surroundings.setting.options.depthLimit ∧ form.decode = .ok content := by
  unfold formContent at found
  cases allowed : surroundings.allow .form depth with
  | error fault => rw [allowed] at found; cases found
  | ok =>
      refine ⟨allow_ok allowed, ?_⟩
      rw [allowed] at found
      cases decoded : form.decode with
      | error fault => rw [decoded] at found; cases found
      | ok content => rw [decoded] at found; cases found; rfl

theorem formContent_tooDeep {surroundings : Surroundings K} {depth : Nat}
    (refused : surroundings.setting.options.depthLimit ≤ depth) (form : Stream) :
    surroundings.formContent form depth =
      .error (.tooDeep .form surroundings.setting.options.depthLimit) := by
  unfold formContent
  rw [allow_tooDeep refused]
  rfl

theorem glyphContent_ok {surroundings : Surroundings K} {id : ObjectId} {depth : Nat}
    {found : Located Stream × List UInt8} (read : surroundings.glyphContent id depth = .ok found) :
    depth < surroundings.setting.options.depthLimit := by
  unfold glyphContent at read
  cases allowed : surroundings.allow .glyph depth with
  | error fault => rw [allowed] at read; cases read
  | ok => exact allow_ok allowed

theorem glyphContent_tooDeep {surroundings : Surroundings K} {depth : Nat}
    (refused : surroundings.setting.options.depthLimit ≤ depth) (id : ObjectId) :
    surroundings.glyphContent id depth =
      .error (.tooDeep .glyph surroundings.setting.options.depthLimit) := by
  unfold glyphContent
  rw [allow_tooDeep refused]
  rfl

/-! ### Listing the moments -/

variable [Scalar K]

def formRun? (surroundings : Surroundings K) (form : Located Stream) (interpreter : Interpreter K) :
    Option (NestedRun K) :=
  match surroundings.formContent form.value interpreter.state.depth with
  | .error _ => none
  | .ok content => some ⟨.form, content, interpreter.modify (surroundings.formState form)⟩

def glyphRun? (surroundings : Surroundings K) (glyphs : GlyphProcedures K) (code : Nat)
    (rendering : Matrix K) (interpreter : Interpreter K) : Option (NestedRun K) :=
  match glyphs.procedure? code with
  | none => none
  | some id =>
    match surroundings.glyphContent id interpreter.state.depth with
    | .error _ => none
    | .ok (procedure, content) =>
      some ⟨.glyph, content,
        interpreter.modify (surroundings.glyphState glyphs procedure rendering)⟩

theorem start_of_glyphRun? {surroundings : Surroundings K} {glyphs : GlyphProcedures K}
    {code : Nat} {rendering : Matrix K} {interpreter : Interpreter K} {run : NestedRun K}
    (begins : surroundings.glyphRun? glyphs code rendering interpreter = some run) :
    ∃ procedure, run.start =
      interpreter.modify (surroundings.glyphState glyphs procedure rendering) := by
  unfold glyphRun? at begins
  split at begins
  · cases begins
  · split at begins
    · cases begins
    · cases begins
      exact ⟨_, rfl⟩

def shownRun? (surroundings : Surroundings K) (parameters : TextParameters K)
    (typeface : Typeface K) (interpreter : Interpreter K) (glyph : Glyph K) :
    Option (NestedRun K) :=
  match interpreter.state.text?, typeface.glyphs? with
  | some matrices, some glyphs =>
    let rendering := (parameters.fontMatrix.concat matrices.text).concat
      interpreter.state.current.matrix
    surroundings.glyphRun? glyphs glyph.code rendering interpreter
  | _, _ => none

def glyphMoments (surroundings : Surroundings K) (parameters : TextParameters K)
    (typeface : Typeface K) : List (Glyph K) → Interpreter K → List (Moment K)
  | [], interpreter => [.between interpreter]
  | glyph :: rest, interpreter =>
    .between interpreter ::
      (((surroundings.shownRun? parameters typeface interpreter glyph).map .begins).toList ++
        surroundings.glyphMoments parameters typeface rest
          (surroundings.showGlyph parameters typeface interpreter glyph))

def commandMoments (surroundings : Surroundings K) (command : Command K)
    (interpreter : Interpreter K) : List (Moment K) :=
  match command with
  | .show bytes =>
    let parameters := interpreter.state.current.text
    match interpreter.state.text?, parameters.typeface? with
    | some _, some typeface =>
      surroundings.glyphMoments parameters typeface (typeface.decode bytes) interpreter
    | _, _ => []
  | .external name =>
    match surroundings.external? interpreter.state.resources name with
    | .error _ => []
    | .ok stream =>
      let subtype := ((stream.value.entries.find? "Subtype").bind Object.name?).map Text.decodeUtf8
      if subtype = some "Form" then
        ((surroundings.formRun? stream interpreter).map .begins).toList
      else []
  | _ => []

def instructionMoments (surroundings : Surroundings K) :
    List (Instruction K) → Interpreter K → List (Moment K)
  | [], interpreter => [.between interpreter]
  | instruction :: rest, interpreter =>
    let outcome := surroundings.execute instruction.command interpreter
    .between interpreter :: (surroundings.commandMoments instruction.command interpreter ++
      match outcome.result with
      | .ok () => surroundings.instructionMoments rest outcome.interpreter
      | .error _ => [.between outcome.interpreter])

def dispatchMoments (surroundings : Surroundings K) (name : String) (operands : List (Operand K))
    (index : Nat) (interpreter : Interpreter K) : List (Moment K) :=
  match Operator.ofName? name with
  | none => []
  | some operator =>
    match operator.read operands with
    | .error _ => []
    | .ok instructions =>
      surroundings.instructionMoments instructions (interpreter.moveTo ⟨some operator, index⟩)

end Surroundings

namespace Interpretation

variable [Scalar K]

def tokenMoments (surroundings : Surroundings K) (progress : Progress K) (token : Token K) :
    List (Moment K) :=
  match token with
  | .operand _ => []
  | .operator name =>
    surroundings.dispatchMoments name progress.operands progress.index progress.interpreter
  | .image image =>
    surroundings.dispatchMoments "BI" [.literal image.data, .dictionary image.entries]
      progress.index progress.interpreter

def tokensMoments (surroundings : Surroundings K) : List (Token K) → Progress K → List (Moment K)
  | [], progress => [.between progress.interpreter]
  | token :: rest, progress =>
    .between progress.interpreter :: (tokenMoments surroundings progress token ++
      tokensMoments surroundings rest (step surroundings progress token))

/-- The moments of a stream itself, without those of the streams within it. -/
def moments (surroundings : Surroundings K) (content : List UInt8) (start : Interpreter K) :
    List (Moment K) :=
  tokensMoments surroundings (Content.tokens content).tokens.toList ⟨start, [], 0⟩

end Interpretation

/-! ### How deep the moments are -/

/-- A moment of a stream with so many streams around it. What begins is one level deeper, and
allowed. -/
def Moment.LiesAt (depth limit : Nat) : Moment K → Prop
  | .between interpreter => interpreter.state.depth = depth
  | .begins run => run.start.state.depth = depth + 1 ∧ depth < limit

namespace Surroundings

variable [Scalar K] {surroundings : Surroundings K}

private theorem depth_of_formRun? {form : Located Stream} {interpreter : Interpreter K}
    {run : NestedRun K} (begins : surroundings.formRun? form interpreter = some run) :
    (Moment.begins run).LiesAt interpreter.state.depth surroundings.setting.options.depthLimit := by
  unfold formRun? at begins
  split at begins
  · cases begins
  · next content found =>
      cases begins
      exact ⟨rfl, (formContent_ok found).1⟩

private theorem depth_of_shownRun? {parameters : TextParameters K} {typeface : Typeface K}
    {interpreter : Interpreter K} {glyph : Glyph K} {run : NestedRun K}
    (begins : surroundings.shownRun? parameters typeface interpreter glyph = some run) :
    (Moment.begins run).LiesAt interpreter.state.depth surroundings.setting.options.depthLimit := by
  unfold shownRun? glyphRun? at begins
  dsimp only at begins
  split at begins
  · split at begins
    · cases begins
    · split at begins
      · cases begins
      · next found =>
          cases begins
          exact ⟨rfl, glyphContent_ok found⟩
  · cases begins

theorem depth_glyphMoments (nested : surroundings.nested.Resumes) (parameters : TextParameters K)
    (typeface : Typeface K) (glyphs : List (Glyph K)) (interpreter : Interpreter K) :
    ∀ moment ∈ surroundings.glyphMoments parameters typeface glyphs interpreter,
      moment.LiesAt interpreter.state.depth surroundings.setting.options.depthLimit := by
  induction glyphs generalizing interpreter with
  | nil =>
      intro moment member
      obtain rfl := List.mem_singleton.mp member
      rfl
  | cons glyph rest ih =>
      intro moment member
      rcases List.mem_cons.mp member with rfl | member
      · rfl
      rcases List.mem_append.mp member with member | member
      · obtain ⟨run, begins, rfl⟩ := Option.map_eq_some_iff.mp (Option.mem_toList.mp member)
        exact depth_of_shownRun? begins
      · have level := (keeps_showGlyph nested parameters typeface interpreter glyph).depth
        exact level ▸ ih _ moment member

theorem depth_commandMoments (nested : surroundings.nested.Resumes) (command : Command K)
    (interpreter : Interpreter K) :
    ∀ moment ∈ surroundings.commandMoments command interpreter,
      moment.LiesAt interpreter.state.depth surroundings.setting.options.depthLimit := by
  intro moment member
  cases command with
  | «show» bytes =>
      simp only [commandMoments] at member
      split at member
      · exact depth_glyphMoments nested _ _ _ interpreter moment member
      · cases member
  | external name =>
      simp only [commandMoments] at member
      split at member
      · cases member
      · split at member
        · obtain ⟨run, begins, rfl⟩ := Option.map_eq_some_iff.mp (Option.mem_toList.mp member)
          exact depth_of_formRun? begins
        · cases member
  | _ => cases member

theorem depth_instructionMoments (nested : surroundings.nested.Resumes)
    (instructions : List (Instruction K)) (interpreter : Interpreter K) :
    ∀ moment ∈ surroundings.instructionMoments instructions interpreter,
      moment.LiesAt interpreter.state.depth surroundings.setting.options.depthLimit := by
  induction instructions generalizing interpreter with
  | nil =>
      intro moment member
      obtain rfl := List.mem_singleton.mp member
      rfl
  | cons instruction rest ih =>
      intro moment member
      have level := (continues_execute nested instruction.command interpreter).depth
      rcases List.mem_cons.mp member with rfl | member
      · rfl
      rcases List.mem_append.mp member with member | member
      · exact depth_commandMoments nested instruction.command interpreter moment member
      · split at member
        · exact level ▸ ih _ moment member
        · obtain rfl := List.mem_singleton.mp member
          exact level

theorem depth_dispatchMoments (nested : surroundings.nested.Resumes) (name : String)
    (operands : List (Operand K)) (index : Nat) (interpreter : Interpreter K) :
    ∀ moment ∈ surroundings.dispatchMoments name operands index interpreter,
      moment.LiesAt interpreter.state.depth surroundings.setting.options.depthLimit := by
  intro moment member
  unfold dispatchMoments at member
  split at member
  · cases member
  · next operator _ =>
      split at member
      · cases member
      · exact depth_instructionMoments nested _ (interpreter.moveTo ⟨some operator, index⟩) moment
          member

end Surroundings

namespace Interpretation

variable [Scalar K] {surroundings : Surroundings K}

private theorem depth_tokensMoments (nested : surroundings.nested.Resumes)
    (tokens : List (Token K)) (progress : Progress K) :
    ∀ moment ∈ tokensMoments surroundings tokens progress,
      moment.LiesAt progress.interpreter.state.depth
        surroundings.setting.options.depthLimit := by
  induction tokens generalizing progress with
  | nil =>
      intro moment member
      obtain rfl := List.mem_singleton.mp member
      rfl
  | cons token rest ih =>
      intro moment member
      rcases List.mem_cons.mp member with rfl | member
      · rfl
      rcases List.mem_append.mp member with member | member
      · cases token with
        | operand operand => cases member
        | operator name =>
            exact Surroundings.depth_dispatchMoments nested name _ _ _ moment member
        | image image =>
            exact Surroundings.depth_dispatchMoments nested "BI"
              [.literal image.data, .dictionary image.entries] _ _ moment member
      · exact (continues_step nested progress token).depth ▸ ih _ moment member

/-- All moments of a stream are at its depth, and what begins in it is one level deeper. -/
theorem depth_moments (nested : surroundings.nested.Resumes) (content : List UInt8)
    (start : Interpreter K) :
    ∀ moment ∈ moments surroundings content start,
      moment.LiesAt start.state.depth surroundings.setting.options.depthLimit :=
  depth_tokensMoments nested _ ⟨start, [], 0⟩

end Interpretation

/-! ### What runs depends on how streams run that begin -/

/-- Two ways to run streams that agree on those that begin at some moments. -/
def Runner.AgreeOn (moments : List (Moment K)) (first second : Runner K) : Prop :=
  ∀ run : NestedRun K, .begins run ∈ moments →
    first run.content run.start = second run.content run.start

namespace Runner.AgreeOn

variable {first second : Runner K}

theorem of_append {front back : List (Moment K)} (agree : first.AgreeOn (front ++ back) second) :
    first.AgreeOn front second ∧ first.AgreeOn back second :=
  ⟨fun run member => agree run (List.mem_append_left _ member),
    fun run member => agree run (List.mem_append_right _ member)⟩

theorem of_between {interpreter : Interpreter K} {later : List (Moment K)}
    (agree : first.AgreeOn (.between interpreter :: later) second) : first.AgreeOn later second :=
  fun run member => agree run (List.mem_cons_of_mem _ member)

theorem of_begins {run? : Option (NestedRun K)}
    (agree : first.AgreeOn (run?.map .begins).toList second) {run : NestedRun K}
    (begins : run? = some run) : first run.content run.start = second run.content run.start :=
  agree run (by simp [begins])

end Runner.AgreeOn

namespace Surroundings

variable [Scalar K] {setting : Setting} {first second : Runner K}

theorem drawForm_congr {form : Located Stream} {interpreter : Interpreter K}
    (agree : first.AgreeOn (((Surroundings.mk setting first).formRun? form interpreter).map
      .begins).toList second) :
    (Surroundings.mk setting first).drawForm form interpreter =
      (Surroundings.mk setting second).drawForm form interpreter := by
  have same : (Surroundings.mk setting second).formContent form.value interpreter.state.depth =
      (Surroundings.mk setting first).formContent form.value interpreter.state.depth := rfl
  unfold drawForm
  rw [same]
  cases found : (Surroundings.mk setting first).formContent form.value interpreter.state.depth with
  | error fault => rfl
  | ok content =>
      have begins : (Surroundings.mk setting first).formRun? form interpreter =
          some ⟨.form, content,
            interpreter.modify ((Surroundings.mk setting first).formState form)⟩ := by
        unfold formRun?
        rw [found]
      have runs := agree.of_begins begins
      dsimp only at runs ⊢
      rw [runs]
      rfl

theorem drawGlyph_congr {glyphs : GlyphProcedures K} {code : Nat} {rendering : Matrix K}
    {interpreter : Interpreter K}
    (agree : first.AgreeOn (((Surroundings.mk setting first).glyphRun? glyphs code rendering
      interpreter).map .begins).toList second) :
    (Surroundings.mk setting first).drawGlyph glyphs code rendering interpreter =
      (Surroundings.mk setting second).drawGlyph glyphs code rendering interpreter := by
  unfold drawGlyph
  cases procedure : glyphs.procedure? code with
  | none => rfl
  | some id =>
      have same : (Surroundings.mk setting second).glyphContent id interpreter.state.depth =
          (Surroundings.mk setting first).glyphContent id interpreter.state.depth := rfl
      dsimp only
      rw [same]
      cases found : (Surroundings.mk setting first).glyphContent id interpreter.state.depth with
      | error fault => rfl
      | ok read =>
          have begins : (Surroundings.mk setting first).glyphRun? glyphs code rendering
              interpreter = some ⟨.glyph, read.2, interpreter.modify
                ((Surroundings.mk setting first).glyphState glyphs read.1 rendering)⟩ := by
            unfold glyphRun?
            simp only [procedure, found]
          have runs := agree.of_begins begins
          dsimp only at runs ⊢
          rw [runs]
          rfl

theorem showGlyph_congr {parameters : TextParameters K} {typeface : Typeface K}
    {glyph : Glyph K} {interpreter : Interpreter K}
    (agree : first.AgreeOn (((Surroundings.mk setting first).shownRun? parameters typeface
      interpreter glyph).map .begins).toList second) :
    (Surroundings.mk setting first).showGlyph parameters typeface interpreter glyph =
      (Surroundings.mk setting second).showGlyph parameters typeface interpreter glyph := by
  unfold showGlyph
  cases text : interpreter.state.text? with
  | none => rfl
  | some matrices =>
      have drawn (rendering : Matrix K)
          (same : rendering = (parameters.fontMatrix.concat matrices.text).concat
            interpreter.state.current.matrix) :
          (Surroundings.mk setting first).drawGlyphOrReport typeface glyph.code rendering
              interpreter =
            (Surroundings.mk setting second).drawGlyphOrReport typeface glyph.code rendering
              interpreter := by
        subst same
        unfold drawGlyphOrReport
        cases procedures : typeface.glyphs? with
        | none => rfl
        | some glyphs =>
            have begins : (Surroundings.mk setting first).shownRun? parameters typeface
                interpreter glyph = (Surroundings.mk setting first).glyphRun? glyphs glyph.code
                  ((parameters.fontMatrix.concat matrices.text).concat
                    interpreter.state.current.matrix) interpreter := by
              unfold shownRun?
              rw [text, procedures]
            dsimp only
            rw [drawGlyph_congr (begins ▸ agree)]
            rfl
      dsimp only
      rw [drawn _ rfl]

theorem showGlyphs_congr {parameters : TextParameters K} {typeface : Typeface K}
    {glyphs : List (Glyph K)} {interpreter : Interpreter K}
    (agree : first.AgreeOn ((Surroundings.mk setting first).glyphMoments parameters typeface glyphs
      interpreter) second) :
    glyphs.foldl ((Surroundings.mk setting first).showGlyph parameters typeface) interpreter =
      glyphs.foldl ((Surroundings.mk setting second).showGlyph parameters typeface) interpreter := by
  induction glyphs generalizing interpreter with
  | nil => simp only [List.foldl_nil]
  | cons glyph rest ih =>
      simp only [glyphMoments] at agree
      obtain ⟨now, later⟩ := agree.of_between.of_append
      rw [List.foldl_cons, List.foldl_cons, ih later, showGlyph_congr now]

theorem execute_congr {command : Command K} {interpreter : Interpreter K}
    (agree : first.AgreeOn ((Surroundings.mk setting first).commandMoments command interpreter)
      second) :
    (Surroundings.mk setting first).execute command interpreter =
      (Surroundings.mk setting second).execute command interpreter := by
  cases command with
  | «show» bytes =>
      simp only [execute, showString]
      cases text : interpreter.state.text? with
      | none => rfl
      | some matrices =>
          cases selected : interpreter.state.current.text.typeface? with
          | none => cases interpreter.state.current.text.fontName? <;> rfl
          | some typeface =>
              simp only [commandMoments, text, selected] at agree
              dsimp only
              rw [showGlyphs_congr agree]
  | external name =>
      have same : (Surroundings.mk setting second).external? interpreter.state.resources name =
          (Surroundings.mk setting first).external? interpreter.state.resources name := rfl
      simp only [execute, drawExternal]
      rw [same]
      cases found : (Surroundings.mk setting first).external? interpreter.state.resources name with
      | error fault => rfl
      | ok stream =>
          simp only [commandMoments, found] at agree
          dsimp only
          split
          · next subtype =>
              rw [if_pos subtype] at agree
              rw [drawForm_congr agree]
          · rfl
  | _ => rfl

theorem executeAll_congr {instructions : List (Instruction K)} {interpreter : Interpreter K}
    (agree : first.AgreeOn
      ((Surroundings.mk setting first).instructionMoments instructions interpreter) second) :
    (Surroundings.mk setting first).executeAll instructions interpreter =
      (Surroundings.mk setting second).executeAll instructions interpreter := by
  induction instructions generalizing interpreter with
  | nil => rfl
  | cons instruction rest ih =>
      simp only [instructionMoments] at agree
      obtain ⟨now, later⟩ := agree.of_between.of_append
      simp only [executeAll]
      rw [← execute_congr now]
      cases executed : ((Surroundings.mk setting first).execute instruction.command
          interpreter).result with
      | ok =>
          simp only [executed] at later ⊢
          exact ih later
      | error fault => rfl

theorem dispatch_congr {name : String} {operands : List (Operand K)} {index : Nat}
    {interpreter : Interpreter K}
    (agree : first.AgreeOn
      ((Surroundings.mk setting first).dispatchMoments name operands index interpreter) second) :
    (Surroundings.mk setting first).dispatch name operands index interpreter =
      (Surroundings.mk setting second).dispatch name operands index interpreter := by
  unfold dispatch handle
  cases found : Operator.ofName? name with
  | none => rfl
  | some operator =>
      cases read : operator.read operands with
      | error fault =>
          simp only [read]
          rfl
      | ok instructions =>
          simp only [dispatchMoments, found, read] at agree
          simp only [read, executeAll_congr agree]
          rfl

end Surroundings

namespace Interpretation

variable [Scalar K] {setting : Setting} {first second : Runner K}

private theorem step_congr {progress : Progress K} {token : Token K}
    (agree : first.AgreeOn (tokenMoments ⟨setting, first⟩ progress token) second) :
    step ⟨setting, first⟩ progress token = step ⟨setting, second⟩ progress token := by
  cases token with
  | operand operand => rfl
  | operator name =>
      simp only [tokenMoments] at agree
      simp only [step, Surroundings.dispatch_congr agree]
  | image image =>
      simp only [tokenMoments] at agree
      simp only [step, Surroundings.dispatch_congr agree]

private theorem steps_congr {tokens : List (Token K)} {progress : Progress K}
    (agree : first.AgreeOn (tokensMoments ⟨setting, first⟩ tokens progress) second) :
    tokens.foldl (step ⟨setting, first⟩) progress =
      tokens.foldl (step ⟨setting, second⟩) progress := by
  induction tokens generalizing progress with
  | nil => simp only [List.foldl_nil]
  | cons token rest ih =>
      simp only [tokensMoments] at agree
      obtain ⟨now, later⟩ := agree.of_between.of_append
      rw [List.foldl_cons, List.foldl_cons, ih later, step_congr now]

/-- A stream does not depend on how other streams run than those that begin in it. -/
theorem runWith_congr {content : List UInt8} {interpreter : Interpreter K}
    (agree : first.AgreeOn (moments ⟨setting, first⟩ content interpreter) second) :
    runWith setting first content interpreter = runWith setting second content interpreter := by
  have steps := steps_congr agree
  simp only [Array.foldl_toList] at steps
  simp only [runWith, steps]

end Interpretation

end PdfElements
