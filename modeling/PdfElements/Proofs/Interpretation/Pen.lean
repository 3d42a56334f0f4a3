import PdfElements.Proofs.Arithmetic.Rational
import PdfElements.Proofs.Extraction.Reached
import PdfElements.Proofs.Interpretation.Lines
import PdfElements.Proofs.Interpretation.Showing
import PdfElements.Proofs.Page.Tree

/-! Where the pen is. Showing moves it along the line and leaves the start of the line alone, so it
stands as far behind that start as all that was shown since. This holds at every moment of a run,
also in glyph procedures, which write lines of their own, and in forms, which go on with the line
around them. -/

set_option autoImplicit false

namespace PdfElements

variable {K : Type} [Scalar K]

namespace TextMatrices

/-- The pen stands behind what is shown on the line. -/
def StandsBehind (matrices : TextMatrices K) (line : List (Shown K)) : Prop :=
  matrices.text =
    (Matrix.translation (Shown.extent line) (Scalar.ofInt 0)).concat matrices.line

@[simp] theorem line_behind (matrices : TextMatrices K) (parameters : TextParameters K)
    (glyphs : List (Glyph K)) : (matrices.behind parameters glyphs).line = matrices.line := by
  induction glyphs generalizing matrices with
  | nil => rfl
  | cons glyph rest ih => exact ih (matrices.advance (parameters.advance glyph))

section exact

variable [Scalar.Exact K]

theorem standsBehind_ofMatrix (matrix : Matrix K) : (ofMatrix matrix).StandsBehind [] :=
  (Matrix.translation_zero_concat matrix).symm

theorem StandsBehind.advance {matrices : TextMatrices K} {line : List (Shown K)}
    (stands : matrices.StandsBehind line) (shown : Shown K) :
    (matrices.advance shown.displacement).StandsBehind (line ++ [shown]) := by
  unfold StandsBehind at stands ⊢
  simp only [TextMatrices.advance]
  rw [stands, Matrix.translation_concat_translation_concat, Shown.extent_concat]

theorem advance_eq_displacement (parameters : TextParameters K) (glyph : Glyph K) :
    parameters.advance glyph = (Shown.glyph parameters glyph).displacement := by
  simp only [TextParameters.advance, TextParameters.horizontalFactor, Shown.displacement]
  split
  · rfl
  · rw [Scalar.Exact.add_zero]

theorem StandsBehind.behind {matrices : TextMatrices K} {line : List (Shown K)}
    (stands : matrices.StandsBehind line) (parameters : TextParameters K)
    (glyphs : List (Glyph K)) :
    (matrices.behind parameters glyphs).StandsBehind
      (line ++ glyphs.map (.glyph parameters)) := by
  induction glyphs generalizing matrices line with
  | nil => rwa [List.map_nil, List.append_nil]
  | cons glyph rest ih =>
      have first := stands.advance (.glyph parameters glyph)
      rw [← advance_eq_displacement] at first
      have others := ih first
      rwa [List.append_assoc] at others

end exact

end TextMatrices

/-- If a text object is open, its pen stands behind what is shown on the line. -/
def Interpreter.StandsBehind (interpreter : Interpreter K) (line : List (Shown K)) : Prop :=
  ∀ matrices, interpreter.state.text? = some matrices → matrices.StandsBehind line

namespace Interpreter

variable {interpreter : Interpreter K} {line : List (Shown K)}

theorem standsBehind_of_none (closed : interpreter.state.text? = none) :
    interpreter.StandsBehind line :=
  fun _ opened => nomatch closed.symm.trans opened

theorem StandsBehind.of_text?_eq {after : Interpreter K} (stands : interpreter.StandsBehind line)
    (same : after.state.text? = interpreter.state.text?) : after.StandsBehind line :=
  fun matrices opened => stands matrices (same.symm.trans opened)

theorem standsBehind_of_some {matrices : TextMatrices K}
    (opened : interpreter.state.text? = some matrices) (stands : matrices.StandsBehind line) :
    interpreter.StandsBehind line := by
  intro other found
  cases opened.symm.trans found
  exact stands

end Interpreter

/-! ### Commands -/

/-- Whether a command begins or ends a text object, begins a line or shows text. -/
def Command.setsPen {K : Type} : Command K → Bool
  | .beginText | .endText | .moveText _ | .textMatrix _ | .nextLine | .show _ | .adjust _ => true
  | _ => false

/-- Whether a command shows text. -/
def Command.showsText {K : Type} : Command K → Bool
  | .show _ | .adjust _ => true
  | _ => false

namespace Surroundings

variable {surroundings : Surroundings K} {interpreter : Interpreter K} {line : List (Shown K)}

omit [Scalar K] in
theorem text?_warn (setting : Setting) (warning : Warning) (interpreter : Interpreter K) :
    (interpreter.warn setting warning).state.text? = interpreter.state.text? :=
  congrArg StreamState.text? (interpreter.state_warn setting warning)

theorem text?_selectFont (setting : Setting) (name : String) (size : K)
    (object : Located Object) (interpreter : Interpreter K) :
    (interpreter.selectFont setting name size object).state.text? = interpreter.state.text? := by
  unfold Interpreter.selectFont
  split
  · rfl
  · exact text?_warn setting _ interpreter

theorem text?_execute (nested : surroundings.nested.Resumes) {command : Command K}
    (other : command.setsPen = false) (interpreter : Interpreter K) :
    (surroundings.execute command interpreter).interpreter.state.text? =
      interpreter.state.text? := by
  cases command with
  | beginText | endText | moveText | textMatrix | nextLine | «show» | adjust => cases other
  | graphicsState name =>
      simp only [execute, selectState]
      split
      · rfl
      · rfl
      · exact text?_selectFont _ _ _ _ interpreter
  | font name size =>
      simp only [execute, Interpreter.selectNamedFont]
      split
      · exact text?_selectFont _ _ _ _ interpreter
      · exact text?_warn surroundings.setting _ interpreter
  | paint paints =>
      obtain ⟨events, painted⟩ := Interpreter.paintPath_eq surroundings paints interpreter
      simp only [execute, Outcome.interpreter_done, painted]
      rfl
  | external name =>
      simp only [execute, drawExternal]
      split
      · rfl
      · split
        · exact congrArg StreamState.text? (resumes_drawForm nested _ interpreter).2
        · split
          · next stream _ _ _ =>
              obtain ⟨event, painted⟩ := interpreter.paintImage_eq surroundings.setting stream.value
              simp only [Outcome.interpreter_done, painted]
              rfl
          · rfl
  | inlineImage image =>
      simp only [execute]
      split
      · rfl
      · obtain ⟨event, painted⟩ := interpreter.paintImage_eq surroundings.setting image.toStream
        simp only [Outcome.interpreter_done, painted]
        rfl
  | glyphBox | selectSpace =>
      simp only [execute]
      split <;> rfl
  | _ => rfl

/-- A command that shows text moves the pen at most, and not the start of the line. -/
theorem line_execute_of_showsText (nested : surroundings.nested.Resumes) {command : Command K}
    (shows : command.showsText = true) {matrices : TextMatrices K}
    (opened : interpreter.state.text? = some matrices) :
    ∃ behind, (surroundings.execute command interpreter).interpreter.state.text? = some behind ∧
      behind.line = matrices.line := by
  cases command with
  | «show» bytes =>
      cases selected : interpreter.state.current.text.typeface? with
      | none =>
          refine ⟨matrices, ?_, rfl⟩
          simp only [execute, showString, opened, selected]
          cases interpreter.state.current.text.fontName? <;> exact opened
      | some typeface =>
          exact ⟨_, text?_showString nested opened selected bytes,
            matrices.line_behind interpreter.state.current.text (typeface.decode bytes)⟩
  | adjust amount =>
      simp only [execute, moveText, opened]
      exact ⟨_, rfl, rfl⟩
  | _ => cases shows

theorem line_executeAll_of_showsText (nested : surroundings.nested.Resumes)
    {instructions : List (Instruction K)}
    (showing : ∀ instruction ∈ instructions, instruction.command.showsText = true)
    {matrices : TextMatrices K} (opened : interpreter.state.text? = some matrices) :
    ∃ behind, (surroundings.executeAll instructions interpreter).interpreter.state.text? =
        some behind ∧ behind.line = matrices.line := by
  induction instructions generalizing interpreter matrices with
  | nil => exact ⟨matrices, opened, rfl⟩
  | cons instruction rest ih =>
      obtain ⟨first, others⟩ := List.forall_mem_cons.mp showing
      obtain ⟨middle, shown, same⟩ := line_execute_of_showsText nested first opened
      simp only [executeAll]
      split
      · obtain ⟨behind, left, line⟩ := ih others shown
        exact ⟨behind, left, line.trans same⟩
      · exact ⟨middle, shown, same⟩

variable [Scalar.Exact K]

theorem standsBehind_moveText (fault : CommandFault K) (matrix : TextMatrices K → Matrix K)
    (interpreter : Interpreter K) :
    (moveText fault (fun matrices => .ofMatrix (matrix matrices))
      interpreter).interpreter.StandsBehind [] := by
  unfold moveText
  cases opened : interpreter.state.text? with
  | none => exact Interpreter.standsBehind_of_none opened
  | some matrices =>
      exact Interpreter.standsBehind_of_some rfl (TextMatrices.standsBehind_ofMatrix _)

theorem standsBehind_show (nested : surroundings.nested.Resumes) (bytes : List UInt8)
    (stands : interpreter.StandsBehind line) :
    (surroundings.execute (.show bytes) interpreter).interpreter.StandsBehind
      (Command.lineBehind (.show bytes) interpreter line) := by
  cases opened : interpreter.state.text? with
  | none =>
      simp only [execute, showString, Command.lineBehind, opened]
      exact stands
  | some matrices =>
      cases selected : interpreter.state.current.text.typeface? with
      | none =>
          simp only [execute, showString, Command.lineBehind, opened, selected]
          cases interpreter.state.current.text.fontName? <;> exact stands
      | some typeface =>
          simp only [Command.lineBehind, opened, selected]
          exact Interpreter.standsBehind_of_some (text?_showString nested opened selected bytes)
            ((stands matrices opened).behind _ _)

theorem standsBehind_adjust (amount : K) (stands : interpreter.StandsBehind line) :
    (surroundings.execute (.adjust amount) interpreter).interpreter.StandsBehind
      (Command.lineBehind (.adjust amount) interpreter line) := by
  cases opened : interpreter.state.text? with
  | none =>
      simp only [execute, moveText, Command.lineBehind, opened]
      exact stands
  | some matrices =>
      simp only [execute, moveText, Command.lineBehind, opened]
      exact Interpreter.standsBehind_of_some rfl
        ((stands matrices opened).advance (.adjustment interpreter.state.current.text amount))

theorem standsBehind_execute (nested : surroundings.nested.Resumes) (command : Command K)
    (stands : interpreter.StandsBehind line) :
    (surroundings.execute command interpreter).interpreter.StandsBehind
      (command.lineBehind interpreter line) := by
  cases sets : command.setsPen with
  | false =>
      have same : command.lineBehind interpreter line = line := by
        cases command <;> first | rfl | cases sets
      rw [same]
      exact stands.of_text?_eq (text?_execute nested sets interpreter)
  | true =>
      cases command with
      | beginText => exact Interpreter.standsBehind_of_some rfl (TextMatrices.standsBehind_ofMatrix _)
      | endText => exact Interpreter.standsBehind_of_none rfl
      | moveText | textMatrix | nextLine => exact standsBehind_moveText _ _ interpreter
      | «show» bytes => exact standsBehind_show nested bytes stands
      | adjust amount => exact standsBehind_adjust amount stands
      | _ => cases sets

end Surroundings

/-! ### Moments -/

/-- At every one of some moments, the pen stands behind what is on the line. -/
def Stand (moments : List (LineMoment K)) : Prop :=
  ∀ entry ∈ moments, entry.1.Holds fun interpreter => interpreter.StandsBehind entry.2

namespace Surroundings

variable {surroundings : Surroundings K} {interpreter : Interpreter K} {line : List (Shown K)}
  [Scalar.Exact K]

theorem standsBehind_of_shownRun? {parameters : TextParameters K} {typeface : Typeface K}
    {glyph : Glyph K} {run : NestedRun K}
    (begins : surroundings.shownRun? parameters typeface interpreter glyph = some run) :
    run.start.StandsBehind [] := by
  unfold shownRun? at begins
  split at begins
  · obtain ⟨procedure, start⟩ := start_of_glyphRun? begins
    rw [start]
    exact Interpreter.standsBehind_of_some rfl (TextMatrices.standsBehind_ofMatrix _)
  · cases begins

omit [Scalar.Exact K] in
theorem standsBehind_of_formRun? {form : Located Stream} {run : NestedRun K}
    (begins : surroundings.formRun? form interpreter = some run)
    (stands : interpreter.StandsBehind line) : run.start.StandsBehind line := by
  unfold formRun? at begins
  split at begins
  · cases begins
  · cases begins
    exact stands.of_text?_eq rfl

theorem standsBehind_showGlyph (nested : surroundings.nested.Resumes)
    (parameters : TextParameters K) (typeface : Typeface K) (glyph : Glyph K)
    (stands : interpreter.StandsBehind line) :
    (surroundings.showGlyph parameters typeface interpreter glyph).StandsBehind
      (line ++ [.glyph parameters glyph]) := by
  cases opened : interpreter.state.text? with
  | none =>
      have idle : surroundings.showGlyph parameters typeface interpreter glyph = interpreter := by
        simp only [showGlyph, opened]
      rw [idle]
      exact Interpreter.standsBehind_of_none opened
  | some matrices =>
      have moved := (shown_glyph nested parameters typeface opened glyph).1
      refine Interpreter.standsBehind_of_some (congrArg StreamState.text? moved) ?_
      rw [TextMatrices.advance_eq_displacement]
      exact (stands matrices opened).advance _

theorem stand_glyphLines (nested : surroundings.nested.Resumes) (parameters : TextParameters K)
    (typeface : Typeface K) (glyphs : List (Glyph K)) (stands : interpreter.StandsBehind line) :
    Stand (surroundings.glyphLines parameters typeface glyphs interpreter line) := by
  induction glyphs generalizing interpreter line with
  | nil => exact List.forall_mem_singleton.mpr stands
  | cons glyph rest ih =>
      refine List.forall_mem_cons.mpr ⟨stands, List.forall_mem_append.mpr ⟨?_, ?_⟩⟩
      · intro entry member
        obtain ⟨run, begins, rfl⟩ := Option.map_eq_some_iff.mp (Option.mem_toList.mp member)
        exact standsBehind_of_shownRun? begins
      · exact ih (standsBehind_showGlyph nested parameters typeface glyph stands)

theorem stand_commandLines (nested : surroundings.nested.Resumes) (command : Command K)
    (stands : interpreter.StandsBehind line) :
    Stand (surroundings.commandLines command interpreter line) := by
  cases command with
  | «show» bytes =>
      simp only [commandLines]
      split
      · exact stand_glyphLines nested _ _ _ stands
      · exact List.forall_mem_nil _
  | external name =>
      simp only [commandLines]
      split
      · exact List.forall_mem_nil _
      · split
        · intro entry member
          obtain ⟨run, begins, rfl⟩ := Option.map_eq_some_iff.mp (Option.mem_toList.mp member)
          exact standsBehind_of_formRun? begins stands
        · exact List.forall_mem_nil _
  | _ => exact List.forall_mem_nil _

theorem stand_instructionLines (nested : surroundings.nested.Resumes)
    (instructions : List (Instruction K)) (stands : interpreter.StandsBehind line) :
    Stand (surroundings.instructionLines instructions interpreter line) := by
  induction instructions generalizing interpreter line with
  | nil => exact List.forall_mem_singleton.mpr stands
  | cons instruction rest ih =>
      have behind := standsBehind_execute nested instruction.command stands
      refine List.forall_mem_cons.mpr ⟨stands, List.forall_mem_append.mpr
        ⟨stand_commandLines nested instruction.command stands, ?_⟩⟩
      split
      · exact ih behind
      · exact List.forall_mem_singleton.mpr behind

theorem stand_dispatchLines (nested : surroundings.nested.Resumes) (name : String)
    (operands : List (Operand K)) (index : Nat) (stands : interpreter.StandsBehind line) :
    Stand (surroundings.dispatchLines name operands index interpreter line) := by
  unfold dispatchLines
  split
  · exact List.forall_mem_nil _
  · split
    · exact List.forall_mem_nil _
    · exact stand_instructionLines nested _ (stands.of_text?_eq rfl)

/-- Behind an operator, the pen stands behind what was on the line at the last of its moments. -/
theorem standsBehind_dispatch (nested : surroundings.nested.Resumes) (name : String)
    (operands : List (Operand K)) (index : Nat) (stands : interpreter.StandsBehind line) :
    (surroundings.dispatch name operands index interpreter).StandsBehind
      (lastLine (surroundings.dispatchLines name operands index interpreter line) line) := by
  unfold dispatch dispatchLines handle
  cases Operator.ofName? name with
  | none => exact stands
  | some operator =>
      dsimp only
      cases operator.read operands with
      | error fault => exact stands.of_text?_eq (text?_warn _ _ _)
      | ok instructions =>
          let placed := interpreter.moveTo ⟨some operator, index⟩
          obtain ⟨front, behind, lines⟩ :=
            surroundings.instructionLines_eq_concat instructions placed line
          have all := stand_instructionLines nested instructions
            (show placed.StandsBehind line from stands.of_text?_eq rfl)
          rw [lines] at all
          have last : (surroundings.executeAll instructions placed).interpreter.StandsBehind behind :=
            all _ (List.mem_append_right front List.mem_cons_self)
          have same : lastLine (surroundings.instructionLines instructions placed line) line =
              behind := by
            rw [lines]
            simp [lastLine]
          dsimp only
          rw [same]
          split
          · exact last
          · exact last.of_text?_eq (text?_warn _ _ _)

end Surroundings

namespace Interpretation

variable [Scalar.Exact K]

section stream

variable {surroundings : Surroundings K}

theorem stand_tokenLines (nested : surroundings.nested.Resumes) (token : Token K)
    {progress : Progress K} {line : List (Shown K)}
    (stands : progress.interpreter.StandsBehind line) :
    Stand (tokenLines surroundings progress token line) ∧
      (step surroundings progress token).interpreter.StandsBehind
        (lastLine (tokenLines surroundings progress token line) line) := by
  cases token with
  | operand operand => exact ⟨List.forall_mem_nil _, stands⟩
  | operator name =>
      exact ⟨Surroundings.stand_dispatchLines nested name _ _ stands,
        Surroundings.standsBehind_dispatch nested name _ _ stands⟩
  | image image =>
      let operands : List (Operand K) := [.literal image.data, .dictionary image.entries]
      exact ⟨Surroundings.stand_dispatchLines nested "BI" operands _ stands,
        Surroundings.standsBehind_dispatch nested "BI" operands _ stands⟩

theorem stand_tokensLines (nested : surroundings.nested.Resumes) (tokens : List (Token K))
    {progress : Progress K} {line : List (Shown K)}
    (stands : progress.interpreter.StandsBehind line) :
    Stand (tokensLines surroundings tokens progress line) := by
  induction tokens generalizing progress line with
  | nil => exact List.forall_mem_singleton.mpr stands
  | cons token rest ih =>
      obtain ⟨moments, behind⟩ := stand_tokenLines nested token stands
      exact List.forall_mem_cons.mpr ⟨stands, List.forall_mem_append.mpr ⟨moments, ih behind⟩⟩

end stream

/-- If the pen stands behind the line as a stream begins, it does wherever its run gets to. -/
theorem Typesets.standsBehind {setting : Setting} {content : List UInt8}
    {start reached : Interpreter K} {begun line : List (Shown K)}
    (typesets : Typesets setting content start begun reached line)
    (stands : start.StandsBehind begun) : reached.StandsBehind line := by
  have nested : (surroundings (K := K) setting).nested.Resumes := resumes_run setting
  induction typesets with
  | here member => exact stand_tokensLines nested _ stands _ member
  | within member _ ih => exact ih (stand_tokensLines nested _ stands _ member)

end Interpretation

/-! ### Documents -/

/-- An interpreter that the run of a document gets to, and what is on the line then. Pages begin
with nothing on it. -/
def Extraction.Typesets (setting : Setting) (reached : Interpreter K) (line : List (Shown K)) :
    Prop :=
  ∃ front id back, PageTree.pages setting.store = front ++ id :: back ∧
    Interpreter.stops setting front.length = false ∧
    Interpretation.Typesets setting (Interpreter.readPage (K := K) setting id).1.content
      ((Interpreter.start.pages setting (PageTree.pages setting.store).length 0 front).openPage
        setting (front.length + 1) id) [] reached line

theorem Extraction.Reaches.typesets {setting : Setting} {reached : Interpreter K}
    (reaches : Extraction.Reaches setting reached) :
    ∃ line, Extraction.Typesets setting reached line := by
  obtain ⟨front, id, back, around, pages, within, getsTo⟩ := reaches
  obtain ⟨line, typesets⟩ := getsTo.typesets []
  exact ⟨line, front, id, back, pages, within, typesets⟩

theorem Extraction.Typesets.reaches {setting : Setting} {reached : Interpreter K}
    {line : List (Shown K)} (typesets : Extraction.Typesets setting reached line) :
    Extraction.Reaches setting reached := by
  obtain ⟨front, id, back, pages, within, typesets⟩ := typesets
  obtain ⟨around, getsTo⟩ := typesets.getsTo
  exact ⟨front, id, back, around, pages, within, getsTo⟩

namespace Interpretation

/-- Wherever the run of a document gets to, also in forms and in glyph procedures, the pen of an
open text object is as far behind the start of the line as all that was shown since the line began,
each glyph and each adjustment with the parameters that were set then. Showing more leaves the start
of the line alone, so the next line lands relative to it. -/
theorem pen_is_behind_line [Scalar.Exact K] {setting : Setting} {reached : Interpreter K}
    (reaches : Extraction.Reaches setting reached) {matrices : TextMatrices K}
    (opened : reached.state.text? = some matrices) :
    (∃ line, Extraction.Typesets setting reached line) ∧
      (∀ line, Extraction.Typesets setting reached line →
        matrices.text =
          (Matrix.translation (Shown.extent line) (Scalar.ofInt 0)).concat matrices.line) ∧
      ∀ instructions : List (Instruction K),
        (∀ instruction ∈ instructions, instruction.command.showsText = true) →
        let shown := ((surroundings setting).executeAll instructions reached).interpreter
        (∃ behind, shown.state.text? = some behind ∧ behind.line = matrices.line) ∧
        (∀ distance : Point K,
          ((surroundings setting).execute (.moveText distance) shown).interpreter.state.text? =
            some (.ofMatrix
              ((Matrix.translation distance.x distance.y).concat matrices.line))) ∧
        ((surroundings setting).execute .nextLine shown).interpreter.state.text? =
          some (.ofMatrix ((Matrix.translation (Scalar.ofInt 0)
            (-shown.state.current.text.leading)).concat matrices.line)) := by
  have nested : (surroundings (K := K) setting).nested.Resumes := resumes_run setting
  refine ⟨reaches.typesets, ?_, ?_⟩
  · rintro line ⟨front, id, back, _, _, typesets⟩
    exact typesets.standsBehind (Interpreter.standsBehind_of_none rfl) matrices opened
  · intro instructions shows shown
    obtain ⟨behind, left, line⟩ := Surroundings.line_executeAll_of_showsText nested shows opened
    have left : shown.state.text? = some behind := left
    refine ⟨⟨behind, left, line⟩, ?_, ?_⟩
    · intro distance
      simp only [Surroundings.execute, Surroundings.moveText, left, TextMatrices.moveLine, line]
      rfl
    · simp only [Surroundings.execute, Surroundings.moveText, left, TextMatrices.nextLine,
        TextMatrices.moveLine, line]
      rfl

def wideLetterFont : Dictionary :=
  let key := Text.encodeUtf8
  [(key "Subtype", .name (key "Type1")), (key "BaseFont", .name (key "Helvetica")),
    (key "FirstChar", .integer 65), (key "Widths", .array [.integer 600])]

def spacedLetter : ObjectStore :=
  let key := Text.encodeUtf8
  let fonts : Object := .dictionary [(key "T", .dictionary wideLetterFont)]
  { objects := [
      (⟨1, 0⟩, .dictionary [(key "Pages", .reference ⟨2, 0⟩)]),
      (⟨2, 0⟩, .dictionary [(key "Kids", .array [.reference ⟨3, 0⟩])]),
      (⟨3, 0⟩, .dictionary [(key "Type", .name (key "Page")),
        (key "Resources", .dictionary [(key "Font", fonts)]), (key "Contents", .reference ⟨4, 0⟩)]),
      (⟨4, 0⟩, .stream [] (key "BT 5 0 Td /T 10 Tf (A) Tj [-500] TJ"))]
    trailer := [(key "Root", .reference ⟨1, 0⟩)] }

private theorem pages_spacedLetter : PageTree.pages spacedLetter = [⟨3, 0⟩] := by
  have root : PageTree.root? spacedLetter = some ⟨2, 0⟩ := by decide +kernel
  exact PageTree.pages_of_children root rfl (by decide +kernel) (by decide)

/-- At the end of the page, six for the letter and five for the adjustment lie behind the start of
the line at five, from which another line still begins. -/
theorem pen_is_behind_letter_and_adjustment :
    let setting : Setting := ⟨spacedLetter, {}⟩
    ∃ (reached : Interpreter ℚ) (line : List (Shown ℚ)), Extraction.Typesets setting reached line ∧
      Shown.extent line = 11 ∧
      reached.state.text? = some ⟨.translation 16 0, .translation 5 0⟩ ∧
      (.translation 16 0 : Matrix ℚ) =
        (Matrix.translation (Shown.extent line) 0).concat (.translation 5 0) ∧
      ((surroundings setting).execute (.moveText ⟨0, -12⟩) reached).interpreter.state.text? =
        some (.ofMatrix ((Matrix.translation 0 (-12)).concat (.translation 5 0))) := by
  intro setting
  let start : Interpreter ℚ := Interpreter.start.openPage setting 1 ⟨3, 0⟩
  let content := (Interpreter.readPage (K := ℚ) setting ⟨3, 0⟩).1.content
  let matrices : TextMatrices ℚ := ⟨.translation 16 0, .translation 5 0⟩
  let open? : Moment ℚ → Option (TextMatrices ℚ)
    | .between interpreter => interpreter.state.text?
    | .begins _ => none
  have last : ((lines (surroundings setting) content start []).getLast?.map fun entry =>
      (open? entry.1, Shown.extent entry.2)) = some (some matrices, 11) := by decide +kernel
  obtain ⟨⟨moment, line⟩, found, same⟩ := Option.map_eq_some_iff.mp last
  obtain ⟨opened, extent⟩ := Prod.mk.inj same
  have member := List.mem_of_getLast? found
  cases moment with
  | begins run => cases opened
  | between reached =>
      have typesets : Extraction.Typesets setting reached line :=
        ⟨[], ⟨3, 0⟩, [], pages_spacedLetter, rfl, .here member⟩
      have main := pen_is_behind_line typesets.reaches opened
      obtain ⟨_, moved, _⟩ := main.2.2 [] (List.forall_mem_nil _)
      exact ⟨reached, line, typesets, extent, opened, main.2.1 line typesets, moved ⟨0, -12⟩⟩

end Interpretation

end PdfElements
