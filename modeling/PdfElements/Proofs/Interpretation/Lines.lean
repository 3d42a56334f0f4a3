import PdfElements.Proofs.Interpretation.Nesting

/-! What is on the line. The pen moves over glyphs and by adjustments, each with the parameters that
are set then, and goes back when a line begins. A run is followed from moment to moment, as for
what it gets to, and what was shown since the line began is put down beside each moment. It says
nothing about where the pen is. -/

set_option autoImplicit false

namespace PdfElements

variable {K : Type}

/-- What moves the pen along a line: a glyph or an adjustment, with the parameters of the text. -/
inductive Shown (K : Type) where
  | glyph (parameters : TextParameters K) (glyph : Glyph K)
  | adjustment (parameters : TextParameters K) (amount : K)

/-- A moment of a run, and what was shown since the line began. -/
abbrev LineMoment (K : Type) := Moment K × List (Shown K)

/-- What is on the line at the last of some moments. -/
def lastLine (moments : List (LineMoment K)) (line : List (Shown K)) : List (Shown K) :=
  (moments.getLast?.map Prod.snd).getD line

variable [Scalar K]

namespace Shown

/-- How far the pen moves, in text space: over a glyph by its width for the size of the font, the
character spacing and, for a space, the word spacing, for an adjustment by as many thousandths of
the size back; all of it stretched by the horizontal scaling, which is given in hundredths. -/
def displacement : Shown K → K
  | .glyph parameters letter =>
    (letter.width * parameters.fontSize + parameters.characterSpacing +
        (if letter.isSpace then parameters.wordSpacing else Scalar.ofInt 0)) *
      (parameters.horizontalScaling / Scalar.ofInt 100)
  | .adjustment parameters amount =>
    -amount / Scalar.ofInt 1000 * parameters.fontSize *
      (parameters.horizontalScaling / Scalar.ofInt 100)

/-- How far the pen moves over all that is shown. -/
def extent (line : List (Shown K)) : K :=
  line.foldl (fun sum shown => sum + shown.displacement) (Scalar.ofInt 0)

theorem extent_concat (line : List (Shown K)) (shown : Shown K) :
    extent (line ++ [shown]) = extent line + shown.displacement := by
  simp [extent]

end Shown

/-- What is on the line behind a command that is carried out. Text objects begin and end with empty
lines, and moving to a line begins it. Strings count if there are a text object and a font to show
them. -/
def Command.lineBehind (command : Command K) (interpreter : Interpreter K) (line : List (Shown K)) :
    List (Shown K) :=
  let parameters := interpreter.state.current.text
  match command with
  | .beginText | .endText | .moveText _ | .textMatrix _ | .nextLine => []
  | .show bytes =>
    match interpreter.state.text?, parameters.typeface? with
    | some _, some typeface => line ++ (typeface.decode bytes).map (.glyph parameters)
    | _, _ => line
  | .adjust amount =>
    match interpreter.state.text? with
    | some _ => line ++ [.adjustment parameters amount]
    | none => line
  | _ => line

/-! ### Lines beside the moments -/

namespace Surroundings

def glyphLines (surroundings : Surroundings K) (parameters : TextParameters K)
    (typeface : Typeface K) :
    List (Glyph K) → Interpreter K → List (Shown K) → List (LineMoment K)
  | [], interpreter, line => [(.between interpreter, line)]
  | glyph :: rest, interpreter, line =>
    (.between interpreter, line) ::
      (((surroundings.shownRun? parameters typeface interpreter glyph).map fun run =>
          (.begins run, [])).toList ++
        surroundings.glyphLines parameters typeface rest
          (surroundings.showGlyph parameters typeface interpreter glyph)
          (line ++ [.glyph parameters glyph]))

def commandLines (surroundings : Surroundings K) (command : Command K)
    (interpreter : Interpreter K) (line : List (Shown K)) : List (LineMoment K) :=
  match command with
  | .show bytes =>
    let parameters := interpreter.state.current.text
    match interpreter.state.text?, parameters.typeface? with
    | some _, some typeface =>
      surroundings.glyphLines parameters typeface (typeface.decode bytes) interpreter line
    | _, _ => []
  | .external name =>
    match surroundings.external? interpreter.state.resources name with
    | .error _ => []
    | .ok stream =>
      let subtype := ((stream.value.entries.find? "Subtype").bind Object.name?).map Text.decodeUtf8
      if subtype = some "Form" then
        ((surroundings.formRun? stream interpreter).map fun run => (.begins run, line)).toList
      else []
  | _ => []

def instructionLines (surroundings : Surroundings K) :
    List (Instruction K) → Interpreter K → List (Shown K) → List (LineMoment K)
  | [], interpreter, line => [(.between interpreter, line)]
  | instruction :: rest, interpreter, line =>
    let outcome := surroundings.execute instruction.command interpreter
    let behind := instruction.command.lineBehind interpreter line
    (.between interpreter, line) ::
      (surroundings.commandLines instruction.command interpreter line ++
        match outcome.result with
        | .ok () => surroundings.instructionLines rest outcome.interpreter behind
        | .error _ => [(.between outcome.interpreter, behind)])

def dispatchLines (surroundings : Surroundings K) (name : String) (operands : List (Operand K))
    (index : Nat) (interpreter : Interpreter K) (line : List (Shown K)) : List (LineMoment K) :=
  match Operator.ofName? name with
  | none => []
  | some operator =>
    match operator.read operands with
    | .error _ => []
    | .ok instructions =>
      surroundings.instructionLines instructions (interpreter.moveTo ⟨some operator, index⟩) line

end Surroundings

namespace Interpretation

def tokenLines (surroundings : Surroundings K) (progress : Progress K) (token : Token K)
    (line : List (Shown K)) : List (LineMoment K) :=
  match token with
  | .operand _ => []
  | .operator name =>
    surroundings.dispatchLines name progress.operands progress.index progress.interpreter line
  | .image image =>
    surroundings.dispatchLines "BI" [.literal image.data, .dictionary image.entries]
      progress.index progress.interpreter line

def tokensLines (surroundings : Surroundings K) :
    List (Token K) → Progress K → List (Shown K) → List (LineMoment K)
  | [], progress, line => [(.between progress.interpreter, line)]
  | token :: rest, progress, line =>
    let moments := tokenLines surroundings progress token line
    (.between progress.interpreter, line) ::
      (moments ++ tokensLines surroundings rest (step surroundings progress token)
        (lastLine moments line))

/-- The moments of a stream itself, with what is on the line as it begins. -/
def lines (surroundings : Surroundings K) (content : List UInt8) (start : Interpreter K)
    (line : List (Shown K)) : List (LineMoment K) :=
  tokensLines surroundings (Content.tokens content).tokens.toList ⟨start, [], 0⟩ line

end Interpretation

/-! ### The moments alone -/

namespace Surroundings

variable {surroundings : Surroundings K}

theorem moments_glyphLines (parameters : TextParameters K) (typeface : Typeface K)
    (glyphs : List (Glyph K)) (interpreter : Interpreter K) (line : List (Shown K)) :
    (surroundings.glyphLines parameters typeface glyphs interpreter line).map Prod.fst =
      surroundings.glyphMoments parameters typeface glyphs interpreter := by
  induction glyphs generalizing interpreter line with
  | nil => rfl
  | cons glyph rest ih =>
      simp only [glyphLines, glyphMoments, List.map_cons, List.map_append, ih]
      cases surroundings.shownRun? parameters typeface interpreter glyph <;> rfl

theorem moments_commandLines (command : Command K) (interpreter : Interpreter K)
    (line : List (Shown K)) :
    (surroundings.commandLines command interpreter line).map Prod.fst =
      surroundings.commandMoments command interpreter := by
  cases command with
  | «show» bytes =>
      simp only [commandLines, commandMoments]
      cases interpreter.state.text? with
      | none => rfl
      | some matrices =>
          cases interpreter.state.current.text.typeface? with
          | none => rfl
          | some typeface => exact moments_glyphLines _ _ _ _ _
  | external name =>
      simp only [commandLines, commandMoments]
      cases surroundings.external? interpreter.state.resources name with
      | error fault => rfl
      | ok stream =>
          dsimp only
          split
          · cases surroundings.formRun? stream interpreter <;> rfl
          · rfl
  | _ => rfl

theorem moments_instructionLines (instructions : List (Instruction K))
    (interpreter : Interpreter K) (line : List (Shown K)) :
    (surroundings.instructionLines instructions interpreter line).map Prod.fst =
      surroundings.instructionMoments instructions interpreter := by
  induction instructions generalizing interpreter line with
  | nil => rfl
  | cons instruction rest ih =>
      simp only [instructionLines, instructionMoments, List.map_cons, List.map_append,
        moments_commandLines]
      cases (surroundings.execute instruction.command interpreter).result with
      | ok => simp only [ih]
      | error fault => rfl

theorem moments_dispatchLines (name : String) (operands : List (Operand K)) (index : Nat)
    (interpreter : Interpreter K) (line : List (Shown K)) :
    (surroundings.dispatchLines name operands index interpreter line).map Prod.fst =
      surroundings.dispatchMoments name operands index interpreter := by
  unfold dispatchLines dispatchMoments
  cases Operator.ofName? name with
  | none => rfl
  | some operator =>
      dsimp only
      cases operator.read operands with
      | error fault => rfl
      | ok instructions => exact moments_instructionLines _ _ _

theorem instructionLines_eq_concat (instructions : List (Instruction K))
    (interpreter : Interpreter K) (line : List (Shown K)) :
    ∃ front behind, surroundings.instructionLines instructions interpreter line =
      front ++ [(.between (surroundings.executeAll instructions interpreter).interpreter,
        behind)] := by
  induction instructions generalizing interpreter line with
  | nil => exact ⟨[], line, rfl⟩
  | cons instruction rest ih =>
      simp only [instructionLines, executeAll]
      cases (surroundings.execute instruction.command interpreter).result with
      | ok =>
          obtain ⟨front, behind, same⟩ := ih
            (surroundings.execute instruction.command interpreter).interpreter
            (instruction.command.lineBehind interpreter line)
          simp only [same]
          rw [← List.append_assoc, ← List.cons_append]
          exact ⟨_, behind, rfl⟩
      | error fault =>
          rw [← List.cons_append]
          exact ⟨_, _, rfl⟩

end Surroundings

namespace Interpretation

section alone

variable {surroundings : Surroundings K}

theorem moments_tokensLines (tokens : List (Token K)) (progress : Progress K)
    (line : List (Shown K)) :
    (tokensLines surroundings tokens progress line).map Prod.fst =
      tokensMoments surroundings tokens progress := by
  induction tokens generalizing progress line with
  | nil => rfl
  | cons token rest ih =>
      simp only [tokensLines, tokensMoments, List.map_cons, List.map_append, ih]
      cases token with
      | operand operand => rfl
      | operator | image => simp only [tokenLines, tokenMoments,
          Surroundings.moments_dispatchLines]

theorem moments_lines (content : List UInt8) (start : Interpreter K) (line : List (Shown K)) :
    (lines surroundings content start line).map Prod.fst = moments surroundings content start :=
  moments_tokensLines _ _ _

end alone

/-! ### What a run gets to -/

/-- An interpreter that a run of a stream gets to, and what is on the line then, if `begun` is on it
as the stream begins. -/
inductive Typesets (setting : Setting) :
    List UInt8 → Interpreter K → List (Shown K) → Interpreter K → List (Shown K) → Prop where
  | here {content : List UInt8} {start reached : Interpreter K} {begun line : List (Shown K)} :
      (.between reached, line) ∈ lines (surroundings setting) content start begun →
      Typesets setting content start begun reached line
  | within {content : List UInt8} {start reached : Interpreter K} {run : NestedRun K}
      {begun inner line : List (Shown K)} :
      (.begins run, inner) ∈ lines (surroundings setting) content start begun →
      Typesets setting run.content run.start inner reached line →
      Typesets setting content start begun reached line

theorem GetsTo.typesets {setting : Setting} {content : List UInt8} {start reached : Interpreter K}
    {around : List NestedStream} (getsTo : GetsTo setting content start around reached)
    (begun : List (Shown K)) : ∃ line, Typesets setting content start begun reached line := by
  induction getsTo generalizing begun with
  | here member =>
      rw [← moments_lines _ _ begun] at member
      obtain ⟨⟨moment, line⟩, member, rfl⟩ := List.mem_map.mp member
      exact ⟨line, .here member⟩
  | within member _ ih =>
      rw [← moments_lines _ _ begun] at member
      obtain ⟨⟨moment, inner⟩, member, rfl⟩ := List.mem_map.mp member
      obtain ⟨line, typesets⟩ := ih inner
      exact ⟨line, .within member typesets⟩

theorem mem_moments_of_mem_lines {surroundings : Surroundings K} {content : List UInt8}
    {start : Interpreter K} {begun line : List (Shown K)} {moment : Moment K}
    (member : (moment, line) ∈ lines surroundings content start begun) :
    moment ∈ moments surroundings content start := by
  rw [← moments_lines content start begun]
  exact List.mem_map.mpr ⟨_, member, rfl⟩

theorem Typesets.getsTo {setting : Setting} {content : List UInt8} {start reached : Interpreter K}
    {begun line : List (Shown K)} (typesets : Typesets setting content start begun reached line) :
    ∃ around, GetsTo setting content start around reached := by
  induction typesets with
  | here member => exact ⟨[], .here (mem_moments_of_mem_lines member)⟩
  | within member _ ih =>
      obtain ⟨around, getsTo⟩ := ih
      exact ⟨_, .within (mem_moments_of_mem_lines member) getsTo⟩

end Interpretation

end PdfElements
