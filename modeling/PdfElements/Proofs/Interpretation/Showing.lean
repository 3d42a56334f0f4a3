import PdfElements.Proofs.Font.Decoding
import PdfElements.Proofs.Interpretation.Moments

/-! Showing strings. Every glyph of a string is shown with the parameters that were set when the
string began, from where the glyph before it ended; the procedure of a glyph leaves no other trace
than what it reports. So strings that end with whole codes may be shown one after another or joined,
and every glyph is reported once, whatever becomes of its procedure. -/

set_option autoImplicit false

namespace PdfElements

variable {K : Type}

/-- What is reported for one glyph of a string: what its procedure reports, then the character. -/
structure GlyphReport (K : Type) where
  drawing : List (Event K)
  character : Character K

def GlyphReport.events (report : GlyphReport K) : List (Event K) :=
  report.drawing ++ [.character report.character]

def TextMatrices.behind [Scalar K] (matrices : TextMatrices K) (parameters : TextParameters K)
    (glyphs : List (Glyph K)) : TextMatrices K :=
  glyphs.foldl (fun matrices glyph => matrices.advance (parameters.advance glyph)) matrices

namespace Surroundings

/-- What is reported before the character of a glyph: all that its procedure reports, if that runs,
and otherwise no more than a warning. -/
def Draws (surroundings : Surroundings K) (run? : Option (NestedRun K))
    (drawing : List (Event K)) : Prop :=
  match run? with
  | some run =>
    (surroundings.nested run.content run.start).events.toList =
      run.start.events.toList ++ drawing
  | none => drawing = [] ∨ ∃ problem, drawing = [.warning problem]

/-! ### One glyph -/

private theorem warned (surroundings : Surroundings K) (failure : Failure)
    (interpreter : Interpreter K) :
    (surroundings.report failure interpreter).state = interpreter.state ∧
      ∃ drawing, (surroundings.report failure interpreter).events.toList =
          interpreter.events.toList ++ drawing ∧ surroundings.Draws none drawing := by
  unfold report Interpreter.warn
  split
  · exact ⟨rfl, _, Array.toList_push, .inr ⟨_, rfl⟩⟩
  · exact ⟨rfl, [], (List.append_nil _).symm, .inl rfl⟩

variable [Scalar K]

theorem drawGlyph_cases (surroundings : Surroundings K) (glyphs : GlyphProcedures K) (code : Nat)
    (rendering : Matrix K) (interpreter : Interpreter K) :
    (∃ run, surroundings.glyphRun? glyphs code rendering interpreter = some run ∧
      run.start.events = interpreter.events ∧
      let inner := surroundings.nested run.content run.start
      surroundings.drawGlyph glyphs code rendering interpreter =
        ⟨.ok inner.state.glyphBox?,
          inner.modify fun state => state.leave interpreter.state.outer⟩) ∨
    surroundings.glyphRun? glyphs code rendering interpreter = none ∧
      (surroundings.drawGlyph glyphs code rendering interpreter = ⟨.ok none, interpreter⟩ ∨
        ∃ fault, surroundings.drawGlyph glyphs code rendering interpreter =
          .failed fault interpreter) := by
  unfold glyphRun? drawGlyph
  cases glyphs.procedure? code with
  | none => exact .inr ⟨rfl, .inl rfl⟩
  | some id =>
      dsimp only
      cases surroundings.glyphContent id interpreter.state.depth with
      | error fault => exact .inr ⟨rfl, .inr ⟨fault, rfl⟩⟩
      | ok read => exact .inl ⟨_, rfl, rfl, rfl⟩

variable {surroundings : Surroundings K}

private theorem drawn_glyph (nested : surroundings.nested.Resumes) (typeface : Typeface K)
    (code : Nat) (rendering : Matrix K) (interpreter : Interpreter K) :
    let drawn := surroundings.drawGlyphOrReport typeface code rendering interpreter
    drawn.2.state = interpreter.state ∧
      ∃ drawing, drawn.2.events.toList = interpreter.events.toList ++ drawing ∧
        surroundings.Draws (typeface.glyphs?.bind fun glyphs =>
          surroundings.glyphRun? glyphs code rendering interpreter) drawing := by
  have nothing : ∃ drawing, interpreter.events.toList = interpreter.events.toList ++ drawing ∧
      surroundings.Draws none drawing := ⟨[], (List.append_nil _).symm, .inl rfl⟩
  unfold drawGlyphOrReport
  cases typeface.glyphs? with
  | none => exact ⟨rfl, nothing⟩
  | some glyphs =>
      have restored := (resumes_drawGlyph nested glyphs code rendering interpreter).2
      simp only [Option.bind_some]
      rcases surroundings.drawGlyph_cases glyphs code rendering interpreter with
        ⟨run, begins, start, drawn⟩ | ⟨idle, drawn | ⟨fault, drawn⟩⟩
      · rw [drawn] at restored
        obtain ⟨drawing, events, _⟩ := (nested run.content run.start).reports
        rw [drawn, begins]
        exact ⟨restored, drawing, start ▸ events, events⟩
      · rw [drawn, idle]
        exact ⟨rfl, nothing⟩
      · rw [drawn, idle]
        exact surroundings.warned _ interpreter

theorem sent_character (setting : Setting) (text : String) (box : Rect K) (font : Font) (size : K)
    (interpreter : Interpreter K) :
    ∃ character : Character K, character.text = text ∧
      character.rect = box.rounded setting.options.places? ∧
      (interpreter.sendCharacter setting text box font size).events.toList =
        interpreter.events.toList ++ [.character character] :=
  ⟨⟨text, _, _, _, _, _, _⟩, rfl, rfl, Array.toList_push⟩

/-- Showing a glyph moves the pen, and reports what its procedure reports and one character. -/
theorem shown_glyph (nested : surroundings.nested.Resumes) (parameters : TextParameters K)
    (typeface : Typeface K) {interpreter : Interpreter K} {matrices : TextMatrices K}
    (opened : interpreter.state.text? = some matrices) (glyph : Glyph K) :
    let shown := surroundings.showGlyph parameters typeface interpreter glyph
    shown.state = { interpreter.state with
        text? := some (matrices.advance (parameters.advance glyph)) } ∧
      ∃ report : GlyphReport K,
        shown.events.toList = interpreter.events.toList ++ report.events ∧
          report.character.text = glyph.text ∧ surroundings.Draws
            (surroundings.shownRun? parameters typeface interpreter glyph) report.drawing := by
  have run : surroundings.shownRun? parameters typeface interpreter glyph =
      typeface.glyphs?.bind fun glyphs => surroundings.glyphRun? glyphs glyph.code
        ((parameters.fontMatrix.concat matrices.text).concat interpreter.state.current.matrix)
        interpreter := by
    unfold shownRun?
    rw [opened]
    cases typeface.glyphs? <;> rfl
  obtain ⟨restored, drawing, events, draws⟩ := drawn_glyph nested typeface glyph.code
    ((parameters.fontMatrix.concat matrices.text).concat interpreter.state.current.matrix)
    interpreter
  simp only [showGlyph, opened]
  refine ⟨?_, ?_⟩
  · simp only [Interpreter.modify, Interpreter.sendCharacter, Interpreter.send, restored, opened,
      Option.map_some]
  · obtain ⟨character, text, _, sent⟩ := sent_character surroundings.setting glyph.text _
      typeface.font (parameters.fontSize * Scalar.magnitude matrices.text.horizontalScale) _
    refine ⟨⟨drawing, character⟩, sent.trans ?_, text, run ▸ draws⟩
    rw [events, List.append_assoc]
    rfl

/-! ### Glyphs one after another -/

/-- Reports of glyphs that are shown one after another, one for each glyph. -/
inductive ShowsEach (surroundings : Surroundings K) (parameters : TextParameters K)
    (typeface : Typeface K) : Interpreter K → List (Glyph K) → List (GlyphReport K) → Prop where
  | nil {interpreter} : ShowsEach surroundings parameters typeface interpreter [] []
  | cons {interpreter glyph rest report reports} :
      report.character.text = glyph.text →
      surroundings.Draws (surroundings.shownRun? parameters typeface interpreter glyph)
        report.drawing →
      (surroundings.showGlyph parameters typeface interpreter glyph).events.toList =
        interpreter.events.toList ++ report.events →
      ShowsEach surroundings parameters typeface
        (surroundings.showGlyph parameters typeface interpreter glyph) rest reports →
      ShowsEach surroundings parameters typeface interpreter (glyph :: rest) (report :: reports)

namespace ShowsEach

variable {parameters : TextParameters K} {typeface : Typeface K} {interpreter : Interpreter K}
  {glyphs : List (Glyph K)} {reports : List (GlyphReport K)}

theorem length (shows : ShowsEach surroundings parameters typeface interpreter glyphs reports) :
    reports.length = glyphs.length := by
  induction shows with
  | nil => rfl
  | cons _ _ _ _ ih => rw [List.length_cons, List.length_cons, ih]

theorem events (shows : ShowsEach surroundings parameters typeface interpreter glyphs reports) :
    (glyphs.foldl (surroundings.showGlyph parameters typeface) interpreter).events.toList =
      interpreter.events.toList ++ reports.flatMap GlyphReport.events := by
  induction shows with
  | nil => exact (List.append_nil _).symm
  | cons _ _ first _ ih =>
      rw [List.foldl_cons, ih, first, List.flatMap_cons, List.append_assoc]

end ShowsEach

theorem shown_glyphs (nested : surroundings.nested.Resumes) (parameters : TextParameters K)
    (typeface : Typeface K) (glyphs : List (Glyph K)) {interpreter : Interpreter K}
    {matrices : TextMatrices K} (opened : interpreter.state.text? = some matrices) :
    (glyphs.foldl (surroundings.showGlyph parameters typeface) interpreter).state =
        { interpreter.state with text? := some (matrices.behind parameters glyphs) } ∧
      ∃ reports, ShowsEach surroundings parameters typeface interpreter glyphs reports := by
  induction glyphs generalizing interpreter matrices with
  | nil => exact ⟨by rw [TextMatrices.behind, List.foldl_nil, List.foldl_nil, ← opened], [], .nil⟩
  | cons glyph rest ih =>
      obtain ⟨moved, report, events, text, draws⟩ := shown_glyph nested parameters typeface opened
        glyph
      have ahead : (surroundings.showGlyph parameters typeface interpreter glyph).state.text? =
          some (matrices.advance (parameters.advance glyph)) := by rw [moved]
      -- A glyph leaves the text object open, which is all that the next one needs.
      obtain ⟨behind, reports, shows⟩ := ih ahead
      refine ⟨?_, report :: reports, .cons text draws events shows⟩
      rw [List.foldl_cons, behind, moved]
      rfl

/-! ### Strings -/

variable {interpreter : Interpreter K} {typeface : Typeface K}

theorem showString_eq (surroundings : Surroundings K)
    (opened : interpreter.state.text?.isSome)
    (selected : interpreter.state.current.text.typeface? = some typeface) (bytes : List UInt8) :
    surroundings.showString bytes interpreter =
      .done ((typeface.decode bytes).foldl
        (surroundings.showGlyph interpreter.state.current.text typeface) interpreter) := by
  obtain ⟨matrices, opened⟩ := Option.isSome_iff_exists.mp opened
  simp only [showString, opened, selected]

theorem text?_showString (nested : surroundings.nested.Resumes) {matrices : TextMatrices K}
    (opened : interpreter.state.text? = some matrices)
    (selected : interpreter.state.current.text.typeface? = some typeface) (bytes : List UInt8) :
    (surroundings.showString bytes interpreter).interpreter.state.text? =
      some (matrices.behind interpreter.state.current.text (typeface.decode bytes)) := by
  have isOpen : interpreter.state.text?.isSome := Option.isSome_iff_exists.mpr ⟨_, opened⟩
  rw [surroundings.showString_eq isOpen selected]
  exact congrArg StreamState.text? (shown_glyphs nested _ typeface (typeface.decode bytes) opened).1

/-- Behind whole codes, a string is shown as if it began there. -/
theorem showString_append (nested : surroundings.nested.Resumes)
    (opened : interpreter.state.text?.isSome)
    (selected : interpreter.state.current.text.typeface? = some typeface) {front : List UInt8}
    (whole : typeface.kind.codeSize ∣ front.length) (back : List UInt8) :
    ∃ between, surroundings.showString front interpreter = .done between ∧
      between.state.text?.isSome ∧ between.state.current.text.typeface? = some typeface ∧
      surroundings.showString (front ++ back) interpreter =
        surroundings.showString back between := by
  let between := (typeface.decode front).foldl
    (surroundings.showGlyph interpreter.state.current.text typeface) interpreter
  have shown := surroundings.showString_eq opened selected
  obtain ⟨matrices, pen⟩ := Option.isSome_iff_exists.mp opened
  obtain ⟨state, _⟩ := shown_glyphs nested interpreter.state.current.text typeface
    (typeface.decode front) pen
  have stillOpened : between.state.text?.isSome := by rw [state]; rfl
  have current : between.state.current = interpreter.state.current := by rw [state]; rfl
  have stillSelected : between.state.current.text.typeface? = some typeface := by
    rw [current, selected]
  refine ⟨between, shown front, stillOpened, stillSelected, ?_⟩
  rw [shown, surroundings.showString_eq stillOpened stillSelected, current,
    typeface.decode_append whole, List.foldl_append]

theorem executeAll_strings (nested : surroundings.nested.Resumes) (operator : Operator)
    (opened : interpreter.state.text?.isSome)
    (selected : interpreter.state.current.text.typeface? = some typeface)
    (strings : List (List UInt8))
    (whole : ∀ bytes ∈ strings, typeface.kind.codeSize ∣ bytes.length) :
    surroundings.executeAll (strings.map fun bytes => ⟨operator, .show bytes⟩) interpreter =
      .done (surroundings.showString strings.flatten interpreter).interpreter := by
  induction strings generalizing interpreter with
  | nil =>
      rw [surroundings.showString_eq opened selected, List.flatten_nil, typeface.decode_eq]
      rfl
  | cons bytes rest ih =>
      obtain ⟨wholeFirst, wholeRest⟩ := List.forall_mem_cons.mp whole
      obtain ⟨between, shown, opened, selected, joined⟩ :=
        showString_append nested opened selected wholeFirst rest.flatten
      rw [List.flatten_cons, joined, ← ih opened selected wholeRest]
      simp only [List.map_cons, executeAll, execute, shown, Outcome.result_done,
        Outcome.interpreter_done]

end Surroundings

theorem Operands.showing_strings {items : List (Operand K)} [Scalar K] {strings : List (List UInt8)}
    (only : items.map Operand.string? = strings.map some) :
    showing items = strings.map Command.show := by
  induction items generalizing strings with
  | nil =>
      cases strings with
      | nil => rfl
      | cons bytes rest => cases only
  | cons item items ih =>
      cases strings with
      | nil => cases only
      | cons bytes rest =>
          obtain ⟨first, others⟩ := List.cons.inj only
          rw [List.map_cons, ← ih others]
          simp [showing, first]

namespace Interpretation

variable [Scalar K]

/-- In an open text object with a usable font, strings that end with whole codes may be shown one
after another or joined, and so may those of an array of strings: all that is reported and the state
behind are the same. For every glyph of a string one character is reported, behind what its procedure
reports, and also if there is none, if it is refused, or whatever happens in it. -/
theorem strings_join_behind_whole_codes (setting : Setting) {interpreter : Interpreter K}
    {typeface : Typeface K} (opened : interpreter.state.text?.isSome)
    (selected : interpreter.state.current.text.typeface? = some typeface) :
    let surroundings : Surroundings K := surroundings setting
    let size := typeface.kind.codeSize
    (∀ front back : List UInt8, size ∣ front.length →
      ∃ between, surroundings.showString front interpreter = .done between ∧
        surroundings.showString (front ++ back) interpreter =
          surroundings.showString back between) ∧
    (∀ bytes, ∃ reports,
      surroundings.ShowsEach interpreter.state.current.text typeface interpreter
        (typeface.decode bytes) reports ∧
      reports.length = (typeface.decode bytes).length ∧
      (surroundings.showString bytes interpreter).interpreter.events.toList =
        interpreter.events.toList ++ reports.flatMap GlyphReport.events) ∧
    (∀ (items : List (Operand K)) (strings : List (List UInt8)) (joined : Operand K) below,
      items.map Operand.string? = strings.map some → (∀ bytes ∈ strings, size ∣ bytes.length) →
      joined.string? = some strings.flatten →
      surroundings.handle .showAdjusted (.array items :: below) interpreter =
        surroundings.handle .showText (joined :: below) interpreter) := by
  intro surroundings size
  have nested : surroundings.nested.Resumes := resumes_run setting
  refine ⟨?_, ?_, ?_⟩
  · intro front back whole
    obtain ⟨between, shown, _, _, joined⟩ :=
      Surroundings.showString_append nested opened selected whole back
    exact ⟨between, shown, joined⟩
  · intro bytes
    obtain ⟨matrices, pen⟩ := Option.isSome_iff_exists.mp opened
    obtain ⟨_, reports, shows⟩ := Surroundings.shown_glyphs nested interpreter.state.current.text
      typeface (typeface.decode bytes) pen
    refine ⟨reports, shows, shows.length, ?_⟩
    rw [surroundings.showString_eq opened selected]
    exact shows.events
  · intro items strings joined below only whole same
    have single : Operator.showText.read (joined :: below) =
        .ok [⟨.showText, .show strings.flatten⟩] := by
      cases joined <;> cases same <;> rfl
    have several : Operator.showAdjusted.read (.array items :: below) =
        .ok (strings.map fun bytes => ⟨.showAdjusted, .show bytes⟩) := by
      have read : Operator.showAdjusted.read (.array items :: below) =
          .ok ((Operands.showing items).map (Instruction.mk .showAdjusted)) := rfl
      rw [read, Operands.showing_strings only, List.map_map]
      rfl
    rw [Surroundings.handle, Surroundings.handle, single, several]
    dsimp only
    rw [Surroundings.executeAll_strings nested _ opened selected strings whole]
    simp only [Surroundings.executeAll, Surroundings.execute,
      surroundings.showString_eq opened selected, Outcome.result_done, Outcome.interpreter_done]

def letterFont : Typeface Float where
  font := ⟨"L", "l", false, false, true⟩
  kind := .drawn ⟨.standard, []⟩ ⟨0, [], some 1, none⟩ ⟨.identity, [(0x41, ⟨1, 0⟩)], none⟩
  toUnicode? := none
  ascent := 1
  descent := 0

def letterPage : Interpreter Float :=
  (Interpreter.start : Interpreter Float).modify fun state =>
    { state.modifyText fun text => { text with typeface? := some letterFont } with
      text? := some .initial }

/-- Where no procedure may run, the letter A is reported all the same. -/
theorem refused_letter_is_shown :
    let surroundings : Surroundings Float := surroundings ⟨⟨[], []⟩, { depthLimit := 0 }⟩
    let joined := surroundings.handle .showText [.literal [0x41, 0x42]] letterPage
    (∃ reports, surroundings.ShowsEach letterPage.state.current.text letterFont letterPage
      (letterFont.decode [0x41, 0x42]) reports ∧ reports.length = 2) ∧
    joined.interpreter.events.size = 3 ∧
    surroundings.handle .showAdjusted [.array [.literal [0x41], .hexadecimal [0x42]]] letterPage =
      joined := by
  intro surroundings joined
  have opened : letterPage.state.text?.isSome := rfl
  have selected : letterPage.state.current.text.typeface? = some letterFont := rfl
  obtain ⟨_, each, adjusted⟩ := strings_join_behind_whole_codes ⟨⟨[], []⟩, { depthLimit := 0 }⟩
    opened selected
  obtain ⟨reports, shows, count, _⟩ := each [0x41, 0x42]
  refine ⟨⟨reports, shows, count⟩, rfl, ?_⟩
  apply adjusted _ [[0x41], [0x42]] _ _ rfl _ rfl
  intro bytes _
  exact Nat.one_dvd _

end Interpretation

end PdfElements
