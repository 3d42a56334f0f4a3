import PdfElements.Proofs.Interpretation.Alike
import PdfElements.Proofs.Interpretation.Levels
import PdfElements.Proofs.Interpretation.Showing

/-! The boxes that glyphs declare. A glyph procedure declares boxes in its own stream, in the space
that it begins with, and the last one is the box of the character; all else that runs in it, streams
within it included, leaves that box alone. -/

set_option autoImplicit false

namespace PdfElements

variable {K : Type}

/-- What says which box a glyph has: whether a glyph is being drawn, the space in which it declares
boxes, and the last box that it declared. -/
structure Declaration (K : Type) where
  inGlyph : Bool
  space : Matrix K
  box? : Option (Rect K)

def StreamState.declaration (state : StreamState K) : Declaration K :=
  ⟨state.inGlyph, state.initialMatrix, state.glyphBox?⟩

abbrev DeclaredBox (K : Type) := Point K × Point K

variable [Scalar K]

/-- The bounds of a box in the space that a matrix leads to. -/
def DeclaredBox.bounds (box : DeclaredBox K) (matrix : Matrix K) : Rect K :=
  Rect.image matrix box.1.x box.1.y box.2.x box.2.y

/-! ### Which boxes are declared -/

/-- The box that operands declare, the last one first: four bounds, behind the two components of
the advance. -/
def Operands.declaredBox? : List (Operand K) → Option (DeclaredBox K)
  | top :: right :: bottom :: left :: rise :: width :: _ => do
    let _ ← width.number?
    let _ ← rise.number?
    return (⟨← left.number?, ← bottom.number?⟩, ⟨← right.number?, ← top.number?⟩)
  | _ => none

/-- What an operator declares: the one with the name `d1` declares a box, if its operands suit. -/
def Operands.declared (name : String) (operands : List (Operand K)) : List (DeclaredBox K) :=
  if name = "d1" then (declaredBox? operands).toList else []

def Token.declaredBoxes : List (Operand K) → List (Token K) → List (DeclaredBox K)
  | _, [] => []
  | operands, .operand last :: rest => declaredBoxes (last :: operands) rest
  | operands, .operator name :: rest => Operands.declared name operands ++ declaredBoxes [] rest
  | _, .image _ :: rest => declaredBoxes [] rest

/-- The boxes that a stream declares itself. -/
def Content.declaredBoxes (content : List UInt8) : List (DeclaredBox K) :=
  Token.declaredBoxes [] (Content.tokens content).tokens.toList

theorem Operator.toOption_read_glyphBox (operands : List (Operand K)) :
    (Operator.glyphBox.read operands).toOption =
      (Operands.declaredBox? operands).map fun box => [⟨.glyphBox, .glyphBox box.1 box.2⟩] := by
  rcases operands with
    _ | ⟨top, _ | ⟨right, _ | ⟨bottom, _ | ⟨left, _ | ⟨rise, _ | ⟨width, below⟩⟩⟩⟩⟩⟩
  case cons.cons.cons.cons.cons.cons =>
    simp only [Operator.read, Operands.threePoints, Operands.pointOf, Operands.declaredBox?,
      Operands.toOption_bind, Operands.toOption_pure, Operands.toOption_numberOf, Option.map_bind,
      Option.map_some, Option.bind_assoc, Option.bind_some, Option.bind_eq_bind, Option.pure_def,
      Function.comp_def]
  all_goals rfl

namespace Declaration

def declare (declaration : Declaration K) (box : DeclaredBox K) : Declaration K :=
  if declaration.inGlyph then { declaration with box? := some (box.bounds declaration.space) }
  else declaration

theorem box?_foldl_declare (boxes : List (DeclaredBox K)) {declaration : Declaration K}
    (inside : declaration.inGlyph = true) :
    (boxes.foldl declare declaration).box? =
      (boxes.getLast?.map fun box => box.bounds declaration.space).or declaration.box? := by
  induction boxes generalizing declaration with
  | nil => rfl
  | cons box rest ih =>
      have next : declaration.declare box =
          { declaration with box? := some (box.bounds declaration.space) } := if_pos inside
      have stillInside : (declaration.declare box).inGlyph = true := next ▸ inside
      rw [List.foldl_cons, ih stillInside, next, List.getLast?_cons]
      cases rest.getLast? <;> rfl

end Declaration

/-! ### What leaves the box alone -/

namespace Interpreter

omit [Scalar K] in
theorem declaration_warn (setting : Setting) (warning : Warning) (interpreter : Interpreter K) :
    (interpreter.warn setting warning).state.declaration = interpreter.state.declaration :=
  congrArg StreamState.declaration (state_warn setting warning interpreter)

theorem declaration_selectFont (setting : Setting) (name : String) (size : K)
    (object : Located Object) (interpreter : Interpreter K) :
    (interpreter.selectFont setting name size object).state.declaration =
      interpreter.state.declaration := by
  unfold selectFont
  split
  · rfl
  · exact interpreter.declaration_warn setting _

theorem declaration_selectNamedFont (setting : Setting) (name : String) (size : K)
    (interpreter : Interpreter K) :
    (interpreter.selectNamedFont setting name size).state.declaration =
      interpreter.state.declaration := by
  unfold selectNamedFont
  dsimp only
  split
  · exact interpreter.declaration_selectFont setting _ _ _
  · exact interpreter.declaration_warn setting _

theorem declaration_paintImage (setting : Setting) (image : Stream) (interpreter : Interpreter K) :
    (interpreter.paintImage setting image).state.declaration = interpreter.state.declaration := by
  rw [state_paintImage]

end Interpreter

namespace Surroundings

variable {surroundings : Surroundings K}

theorem declaration_paintPath (surroundings : Surroundings K) (paints : List Paint)
    (interpreter : Interpreter K) :
    (surroundings.paintPath paints interpreter).state.declaration =
      interpreter.state.declaration := by
  obtain ⟨events, painted⟩ := Interpreter.paintPath_eq surroundings paints interpreter
  rw [painted]
  rfl

theorem declaration_showString (nested : surroundings.nested.Resumes) (bytes : List UInt8)
    (interpreter : Interpreter K) :
    (surroundings.showString bytes interpreter).interpreter.state.declaration =
      interpreter.state.declaration := by
  unfold showString
  dsimp only
  split
  · rfl
  · rfl
  · rfl
  · next opened _ =>
      rw [Outcome.interpreter_done, (shown_glyphs nested _ _ _ opened).1]
      rfl

theorem declaration_drawExternal (nested : surroundings.nested.Resumes) (name : String)
    (interpreter : Interpreter K) :
    (surroundings.drawExternal name interpreter).interpreter.state.declaration =
      interpreter.state.declaration := by
  unfold drawExternal
  split
  · rfl
  · dsimp only
    split
    · exact congrArg StreamState.declaration (resumes_drawForm nested _ interpreter).2
    · split
      · exact interpreter.declaration_paintImage surroundings.setting _
      · rfl

/-- Commands other than the one that declares a box leave the box alone. Streams that run within the
command declare boxes of their own glyphs at most. -/
theorem declaration_execute (nested : surroundings.nested.Resumes) {command : Command K}
    (other : command.owner? ≠ some .glyphBox) (interpreter : Interpreter K) :
    (surroundings.execute command interpreter).interpreter.state.declaration =
      interpreter.state.declaration := by
  cases command with
  | glyphBox => exact absurd rfl other
  | graphicsState name =>
      simp only [execute, selectState]
      split
      · rfl
      · rfl
      · exact interpreter.declaration_selectFont surroundings.setting _ _ _
  | font name size => exact interpreter.declaration_selectNamedFont surroundings.setting name size
  | paint paints => exact surroundings.declaration_paintPath paints interpreter
  | «show» bytes => exact declaration_showString nested bytes interpreter
  | external name => exact declaration_drawExternal nested name interpreter
  | moveText | textMatrix | nextLine | adjust =>
      simp only [execute, moveText]
      split <;> rfl
  | selectSpace =>
      simp only [execute]
      split <;> rfl
  | inlineImage image =>
      simp only [execute]
      split
      · rfl
      · exact interpreter.declaration_paintImage surroundings.setting _
  | _ => rfl

theorem declaration_executeAll (nested : surroundings.nested.Resumes)
    {instructions : List (Instruction K)}
    (others : ∀ instruction ∈ instructions, instruction.command.owner? ≠ some .glyphBox)
    (interpreter : Interpreter K) :
    (surroundings.executeAll instructions interpreter).interpreter.state.declaration =
      interpreter.state.declaration := by
  induction instructions generalizing interpreter with
  | nil => rfl
  | cons instruction rest ih =>
      obtain ⟨other, others⟩ := List.forall_mem_cons.mp others
      have first := declaration_execute nested other interpreter
      simp only [executeAll]
      split
      · exact (ih others _).trans first
      · exact first

/-! ### What declares it -/

theorem declaration_glyphBox (surroundings : Surroundings K) (box : DeclaredBox K)
    (interpreter : Interpreter K) :
    (surroundings.execute (.glyphBox box.1 box.2) interpreter).interpreter.state.declaration =
      interpreter.state.declaration.declare box := by
  cases inside : interpreter.state.inGlyph with
  | false => simp [execute, Declaration.declare, StreamState.declaration, inside]
  | true => simp [execute, Declaration.declare, StreamState.declaration, inside, Interpreter.modify,
      DeclaredBox.bounds]

/-- An operator changes the box of the glyph as far as it declares one. -/
theorem declaration_handle (nested : surroundings.nested.Resumes) {name : String}
    {operator : Operator} (known : Operator.ofName? name = some operator)
    (operands : List (Operand K)) (interpreter : Interpreter K) :
    (surroundings.handle operator operands interpreter).interpreter.state.declaration =
      (Operands.declared name operands).foldl Declaration.declare
        interpreter.state.declaration := by
  unfold handle Operands.declared
  by_cases named : name = "d1"
  · subst named
    cases known
    have read := Operator.toOption_read_glyphBox operands
    rw [if_pos rfl]
    cases found : Operator.glyphBox.read operands with
    | error fault =>
        rw [found] at read
        rw [Option.map_eq_none_iff.mp read.symm]
        rfl
    | ok instructions =>
        rw [found] at read
        obtain ⟨box, declared, rfl⟩ := Option.map_eq_some_iff.mp read.symm
        rw [declared]
        simp only [executeAll]
        split <;> exact surroundings.declaration_glyphBox box interpreter
  · rw [if_neg named]
    cases read : operator.read operands with
    | error fault => rfl
    | ok instructions =>
        refine declaration_executeAll nested (fun instruction member owned => named ?_) interpreter
        have same := Operator.owner_of_read read instruction member .glyphBox owned
        rw [← Operator.name_of_ofName? known, same]
        rfl

theorem declaration_dispatch (nested : surroundings.nested.Resumes) (name : String)
    (operands : List (Operand K)) (index : Nat) (interpreter : Interpreter K) :
    (surroundings.dispatch name operands index interpreter).state.declaration =
      (Operands.declared name operands).foldl Declaration.declare
        interpreter.state.declaration := by
  unfold dispatch
  cases known : Operator.ofName? name with
  | none =>
      have other : name ≠ "d1" := by
        rintro rfl
        cases known
      simp only [Operands.declared, if_neg other, List.foldl_nil]
  | some operator =>
      have handled := declaration_handle nested known operands
        (interpreter.moveTo ⟨some operator, index⟩)
      dsimp only
      split
      · exact handled
      · exact (Interpreter.declaration_warn _ _ _).trans handled

/-! ### What is reported -/

/-- A glyph that a procedure draws is reported behind what the procedure reports, in the box that it
leaves. -/
theorem shown_drawn_glyph (nested : surroundings.nested.Resumes) {typeface : Typeface K}
    {glyphs : GlyphProcedures K} (drawn : typeface.glyphs? = some glyphs)
    {interpreter : Interpreter K} {matrices : TextMatrices K}
    (opened : interpreter.state.text? = some matrices) {parameters : TextParameters K}
    {rendering : Matrix K}
    (renders : rendering = (parameters.fontMatrix.concat matrices.text).concat
      interpreter.state.current.matrix) {glyph : Glyph K} {run : NestedRun K}
    (begins : surroundings.glyphRun? glyphs glyph.code rendering interpreter = some run) :
    let inner := surroundings.nested run.content run.start
    ∃ drawing character,
      inner.events.toList = interpreter.events.toList ++ drawing ∧
      (surroundings.showGlyph parameters typeface interpreter glyph).events.toList =
        interpreter.events.toList ++ drawing ++ [.character character] ∧
      character.text = glyph.text ∧
      character.rect = (inner.state.glyphBox?.getD (Rect.image rendering (Scalar.ofInt 0)
        typeface.descent glyph.width typeface.ascent)).rounded
          surroundings.setting.options.places? := by
  intro inner
  subst renders
  obtain ⟨_, begun, start, drawing⟩ | ⟨idle, _⟩ :=
    surroundings.drawGlyph_cases glyphs glyph.code _ interpreter
  · obtain rfl := Option.some.inj (begins.symm.trans begun)
    obtain ⟨added, events, _⟩ := (nested run.content run.start).reports
    rw [start] at events
    simp only [showGlyph, drawGlyphOrReport, opened, drawn, drawing]
    obtain ⟨character, text, rect, sent⟩ := sent_character surroundings.setting glyph.text _
      typeface.font (parameters.fontSize * Scalar.magnitude matrices.text.horizontalScale) _
    exact ⟨added, character, events, events ▸ sent, text, rect⟩
  · cases begins.symm.trans idle

end Surroundings

namespace Interpretation

theorem declaration_steps {surroundings : Surroundings K} (nested : surroundings.nested.Resumes)
    (tokens : List (Token K)) (progress : Progress K) :
    (tokens.foldl (step surroundings) progress).interpreter.state.declaration =
      (Token.declaredBoxes progress.operands tokens).foldl Declaration.declare
        progress.interpreter.state.declaration := by
  -- By the tokens, with the operands that wait: the next operator takes all of them.
  induction tokens generalizing progress with
  | nil => rfl
  | cons token rest ih =>
      rw [List.foldl_cons, ih]
      cases token with
      | operand last => rfl
      | operator name =>
          rw [Token.declaredBoxes, List.foldl_append,
            ← Surroundings.declaration_dispatch nested name _ progress.index]
          rfl
      | image image =>
          have dispatched := Surroundings.declaration_dispatch nested "BI"
            [.literal image.data, .dictionary image.entries] progress.index progress.interpreter
          exact congrArg ((Token.declaredBoxes [] rest).foldl Declaration.declare) dispatched

theorem declaration_run (setting : Setting) (content : List UInt8) (start : Interpreter K) :
    (run setting content start).state.declaration =
      (Content.declaredBoxes content).foldl Declaration.declare start.state.declaration := by
  have nested : (surroundings (K := K) setting).nested.Resumes := resumes_run setting
  have steps := declaration_steps nested (Content.tokens content).tokens.toList ⟨start, [], 0⟩
  simp only [Array.foldl_toList] at steps
  rw [run_eq]
  unfold runWith finish
  dsimp only
  split
  · exact steps
  · exact (Interpreter.declaration_warn _ _ _).trans steps

theorem glyphBox?_of_glyphRun? {setting : Setting} {glyphs : GlyphProcedures K} {code : Nat}
    {rendering : Matrix K} {interpreter : Interpreter K} {procedure : NestedRun K}
    (begins : (surroundings setting).glyphRun? glyphs code rendering interpreter =
      some procedure) :
    (run setting procedure.content procedure.start).state.glyphBox? =
      (Content.declaredBoxes procedure.content).getLast?.map fun box =>
        box.bounds (glyphs.matrix.concat rendering) := by
  have start : procedure.start.state.declaration =
      ⟨true, glyphs.matrix.concat rendering, none⟩ := by
    obtain ⟨stream, begun⟩ := Surroundings.start_of_glyphRun? begins
    rw [begun]
    rfl
  have behind := congrArg Declaration.box?
    (declaration_run setting procedure.content procedure.start)
  rw [start, Declaration.box?_foldl_declare _ rfl, Option.or_none] at behind
  exact behind

/-- When a string is shown, the box of a character that a glyph procedure draws is the last box that
the procedure declares itself, in the space of its glyph; without one it is what the width, the
descent and the ascent say. -/
theorem last_declared_box_is_reported (setting : Setting) {interpreter : Interpreter K}
    {matrices : TextMatrices K} (opened : interpreter.state.text? = some matrices)
    {typeface : Typeface K}
    (selected : interpreter.state.current.text.typeface? = some typeface)
    {glyphs : GlyphProcedures K} (drawn : typeface.glyphs? = some glyphs) {bytes : List UInt8}
    {front back : List (Glyph K)} {glyph : Glyph K}
    (shown : typeface.decode bytes = front ++ glyph :: back) {rendering : Matrix K}
    (renders : rendering = (interpreter.state.current.text.fontMatrix.concat
      (matrices.behind interpreter.state.current.text front).text).concat
        interpreter.state.current.matrix) {procedure : NestedRun K} :
    let surroundings : Surroundings K := surroundings setting
    let before := front.foldl
      (surroundings.showGlyph interpreter.state.current.text typeface) interpreter
    surroundings.glyphRun? glyphs glyph.code rendering before = some procedure →
      ∃ drawing character later,
        (run setting procedure.content procedure.start).events.toList =
          before.events.toList ++ drawing ∧
        (surroundings.showString bytes interpreter).interpreter.events.toList =
          before.events.toList ++ drawing ++ .character character :: later ∧
        character.text = glyph.text ∧
        character.rect = Rect.rounded
          (((Content.declaredBoxes procedure.content).getLast?.map fun box =>
              box.bounds (glyphs.matrix.concat rendering)).getD
            (Rect.image rendering (Scalar.ofInt 0) typeface.descent glyph.width typeface.ascent))
          setting.options.places? := by
  intro surroundings before begins
  have nested : surroundings.nested.Resumes := resumes_run setting
  obtain ⟨state, _⟩ := Surroundings.shown_glyphs nested interpreter.state.current.text typeface
    front opened
  have stillOpened : before.state.text? =
      some (matrices.behind interpreter.state.current.text front) := by rw [state]
  have renders : rendering = (interpreter.state.current.text.fontMatrix.concat
      (matrices.behind interpreter.state.current.text front).text).concat
        before.state.current.matrix := by rw [renders, state]; rfl
  obtain ⟨drawing, character, inner, events, text, rect⟩ := Surroundings.shown_drawn_glyph nested
    drawn stillOpened renders begins
  have ahead := (Surroundings.shown_glyph nested interpreter.state.current.text typeface stillOpened
    glyph).1
  obtain ⟨_, reports, shows⟩ := Surroundings.shown_glyphs nested interpreter.state.current.text
    typeface back (congrArg StreamState.text? ahead)
  refine ⟨drawing, character, reports.flatMap GlyphReport.events, inner, ?_, text, ?_⟩
  · have isOpen : interpreter.state.text?.isSome := Option.isSome_iff_exists.mpr ⟨_, opened⟩
    rw [surroundings.showString_eq isOpen selected, shown, Outcome.interpreter_done,
      List.foldl_append, List.foldl_cons, shows.events, events, List.append_assoc _ [_]]
    rfl
  · exact glyphBox?_of_glyphRun? begins ▸ rect

def boxedForm : Stream :=
  ⟨[(Text.encodeUtf8 "Subtype", .name (Text.encodeUtf8 "Form"))],
    Text.encodeUtf8 "0 0 0 0 9 9 d1"⟩

/-- A glyph procedure that declares a box, changes the space, declares another box and draws the
form. -/
def boxedProcedure : Stream :=
  ⟨[(Text.encodeUtf8 "Resources", .dictionary [(Text.encodeUtf8 "XObject",
      .dictionary [(Text.encodeUtf8 "X", .reference ⟨2, 0⟩)])])],
    Text.encodeUtf8 "0 0 0 0 1 1 d1 2 0 0 2 0 0 cm 0 0 1 1 2 3 d1 /X Do"⟩

def boxedSetting : Setting :=
  ⟨⟨[(⟨1, 0⟩, .stream boxedProcedure.entries boxedProcedure.data),
    (⟨2, 0⟩, .stream boxedForm.entries boxedForm.data)], []⟩, {}⟩

def boxedPage : Interpreter Float :=
  letterPage.modify fun state => state.modifyText fun text => { text with fontSize := 10 }

theorem boxed_letter_has_its_last_box :
    ∃ drawing character later,
      ((surroundings boxedSetting).showString [0x41] boxedPage).interpreter.events.toList =
        drawing ++ .character character :: later ∧
      character.rect = ⟨10, 10, 20, 30⟩ := by
  let glyphs : GlyphProcedures Float := ⟨.identity, [(0x41, ⟨1, 0⟩)], none⟩
  let rendering : Matrix Float := ⟨10, 0, 0, 10, 0, 0⟩
  let run : NestedRun Float := ⟨.glyph, boxedProcedure.data,
    boxedPage.modify ((surroundings boxedSetting).glyphState glyphs
      ⟨boxedProcedure, .object ⟨1, 0⟩⟩ rendering)⟩
  have renders : rendering = ((boxedPage.state.current.text.fontMatrix.concat
      ((TextMatrices.initial).behind boxedPage.state.current.text []).text).concat
        boxedPage.state.current.matrix) := by decide +kernel
  have shown : letterFont.decode [0x41] = [] ++ letterFont.glyphOf [0x41] :: [] := rfl
  have begins : (surroundings boxedSetting).glyphRun? glyphs (letterFont.glyphOf [0x41]).code
      rendering boxedPage = some run := rfl
  obtain ⟨drawing, character, later, _, events, _, rect⟩ :=
    last_declared_box_is_reported boxedSetting rfl rfl rfl shown renders begins
  refine ⟨drawing, character, later, events, rect.trans ?_⟩
  decide +kernel

end Interpretation

end PdfElements
