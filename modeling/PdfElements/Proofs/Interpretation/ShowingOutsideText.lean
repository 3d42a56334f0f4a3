import PdfElements.Proofs.Content.Instructions
import PdfElements.Interpretation.Execution

/-! Showing text where no text object is open. That fails, and as a rule it fails before anything is
done. The operator that combines spacing with the next line and a string has set the spacing by
then. -/

set_option autoImplicit false

namespace PdfElements

variable {K : Type}

def Interpreter.withSpacing (word character : K) (interpreter : Interpreter K) : Interpreter K :=
  interpreter.modify fun state => state.modifyText fun text =>
    { text with wordSpacing := word, characterSpacing := character }

variable [Scalar K]

/-- The spacing of words and characters, and the string, that operands give, the last one first. -/
def Operands.spacedString? : List (Operand K) → Option (K × K × List UInt8)
  | string :: character :: word :: _ => do
    let bytes ← string.string?
    return (← word.number?, ← character.number?, bytes)
  | _ => none

namespace Operator

theorem toOption_read_showNextLineSpaced (operands : List (Operand K)) :
    (Operator.showNextLineSpaced.read operands).toOption =
      (Operands.spacedString? operands).map fun (word, character, bytes) =>
        [⟨.showNextLineSpaced, .wordSpacing word⟩,
          ⟨.showNextLineSpaced, .characterSpacing character⟩, ⟨.nextLine, .nextLine⟩,
          ⟨.showNextLineSpaced, .show bytes⟩] := by
  rcases operands with _ | ⟨string, _ | ⟨character, _ | ⟨word, below⟩⟩⟩
  case cons.cons.cons =>
    simp only [Operator.read, Operands.last, List.drop_one, List.tail_cons, Operands.point,
      Operands.pointOf, Operands.spacedString?, Operands.toOption_bind, Operands.toOption_ok,
      Operands.toOption_pure, Operands.toOption_numberOf, Operands.toOption_stringOf,
      Option.map_bind, Option.map_some, Option.bind_assoc, Option.bind_some, Option.bind_eq_bind,
      Option.pure_def, Function.comp_def]
  all_goals
    simp only [Operator.read, Operands.last, List.drop_one, List.tail_cons, List.tail_nil,
      Operands.point, Operands.spacedString?, Operands.toOption_bind, Operands.toOption_ok,
      Operands.toOption_error, Option.map_none, Option.bind_none, Option.bind_fun_none]

end Operator

namespace Surroundings

variable (surroundings : Surroundings K) {interpreter : Interpreter K}

theorem execute_outside_text {command : Command K} (inText : command.inText = true)
    (outside : interpreter.state.text? = none) :
    ∃ fault, surroundings.execute command interpreter = .failed fault interpreter := by
  cases command with
  | moveText | textMatrix | nextLine | adjust =>
      simp only [execute, moveText, outside]
      exact ⟨_, rfl⟩
  | «show» bytes =>
      simp only [execute, showString, outside]
      exact ⟨_, rfl⟩
  | _ => cases inText

theorem executeAll_outside_text {instructions : List (Instruction K)}
    (inText : ∀ instruction ∈ instructions, instruction.command.inText = true)
    (outside : interpreter.state.text? = none) :
    (surroundings.executeAll instructions interpreter).interpreter = interpreter := by
  cases instructions with
  | nil => rfl
  | cons instruction rest =>
      obtain ⟨fault, failed⟩ :=
        surroundings.execute_outside_text (inText _ List.mem_cons_self) outside
      simp only [executeAll, failed]
      rfl

theorem handle_spaced_outside_text (operands : List (Operand K))
    (outside : interpreter.state.text? = none) :
    (surroundings.handle .showNextLineSpaced operands interpreter).interpreter =
      match Operands.spacedString? operands with
      | some (word, character, _) => interpreter.withSpacing word character
      | none => interpreter := by
  have read := Operator.toOption_read_showNextLineSpaced operands
  unfold handle
  cases found : Operator.showNextLineSpaced.read operands with
  | error fault =>
      rw [found] at read
      rw [Option.map_eq_none_iff.mp read.symm]
      rfl
  | ok instructions =>
      rw [found] at read
      obtain ⟨⟨word, character, bytes⟩, given, rfl⟩ := Option.map_eq_some_iff.mp read.symm
      rw [given]
      have inText : ∀ instruction ∈ [(⟨.nextLine, .nextLine⟩ : Instruction K),
          ⟨.showNextLineSpaced, .show bytes⟩], instruction.command.inText = true := by
        simp [Command.inText]
      have stillOutside : (interpreter.withSpacing word character).state.text? = none := outside
      exact surroundings.executeAll_outside_text inText stillOutside

/-- Where no text object is open, the operators that show text leave everything as it was, and
report nothing; but the one that combines spacing with the next line and a string sets the spacing,
if its operands suit. -/
theorem showing_outside_text_changes_only_spacing {name : String} {operator : Operator}
    (known : Operator.ofName? name = some operator) (shows : name ∈ ["Tj", "TJ", "'", "\""])
    (operands : List (Operand K)) (outside : interpreter.state.text? = none) :
    (surroundings.handle operator operands interpreter).interpreter =
      match if name = "\"" then Operands.spacedString? operands else none with
      | some (word, character, _) => interpreter.withSpacing word character
      | none => interpreter := by
  by_cases spaced : name = "\""
  · subst spaced
    cases known
    rw [if_pos rfl]
    exact surroundings.handle_spaced_outside_text operands outside
  · have others : operator ∈ [Operator.showText, .showAdjusted, .showNextLine] := by
      simp only [List.mem_cons, List.not_mem_nil, or_false, spaced] at shows
      rcases shows with rfl | rfl | rfl <;> cases known <;> decide
    rw [if_neg spaced]
    unfold handle
    cases found : operator.read operands with
    | error fault => rfl
    | ok instructions =>
        exact surroundings.executeAll_outside_text (Operator.inText_of_read others found) outside

theorem quote_outside_text_sets_spacing :
    let before : Interpreter Float := .start
    let surroundings : Surroundings Float := ⟨⟨⟨[], []⟩, {}⟩, fun _ interpreter => interpreter⟩
    Operator.ofName? "\"" = some .showNextLineSpaced ∧ "\"" ∈ ["Tj", "TJ", "'", "\""] ∧
      before.state.text? = none ∧
      (surroundings.handle .showNextLineSpaced [.literal [0x41], .integer 3, .integer 7]
        before).interpreter = before.withSpacing 7 3 := by
  intro before surroundings
  have known : Operator.ofName? "\"" = some .showNextLineSpaced := by decide
  have shows : "\"" ∈ ["Tj", "TJ", "'", "\""] := by decide
  have outside : before.state.text? = none := rfl
  exact ⟨known, shows, outside,
    surroundings.showing_outside_text_changes_only_spacing known shows _ outside⟩

/-- The spacing is set by an operator that fails. -/
theorem failed_operator_sets_spacing :
    let setting : Setting := ⟨⟨[], []⟩, {}⟩
    let before : Interpreter Float := .start
    let shown := (Surroundings.mk setting fun _ interpreter => interpreter).handle
      .showNextLineSpaced [.literal [0x41], .integer 3, .integer 7] before
    Operator.ofName? "\"" = some .showNextLineSpaced ∧ before.state.text? = none ∧
      shown.result = .error (.operator "T*" "used outside BT/ET") ∧
      shown.interpreter.state.current.text.characterSpacing ≠
        before.state.current.text.characterSpacing ∧
      shown.interpreter.state.current.text.wordSpacing ≠
        before.state.current.text.wordSpacing := by
  intro setting before shown
  exact ⟨by decide, rfl, rfl, by decide +kernel, by decide +kernel⟩

end Surroundings

end PdfElements
