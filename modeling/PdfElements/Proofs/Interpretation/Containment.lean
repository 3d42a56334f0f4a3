import PdfElements.Proofs.Content.Instructions
import PdfElements.Interpretation.Execution

/-! Failures are contained. A command that fails does nothing, and behind the first instruction of
an operator that does not combine others nothing can fail; so an operator that fails leaves the
interpreter as it was. -/

set_option autoImplicit false

namespace PdfElements

variable {K : Type}

/-- An outcome that, if it is a failure, leaves the interpreter as it was before. -/
def Outcome.Contained {Fault Result : Type} (before : Interpreter K)
    (outcome : Outcome Fault K Result) : Prop :=
  ∀ fault, outcome.result = .error fault → outcome.interpreter = before

namespace Outcome.Contained

variable {Fault Result : Type}

theorem of_ok {before : Interpreter K} {outcome : Outcome Fault K Result} {result : Result}
    (ok : outcome.result = .ok result) : outcome.Contained before := by
  intro fault failed
  rw [ok] at failed
  cases failed

theorem done (before after : Interpreter K) :
    (Outcome.done after : Outcome Fault K Unit).Contained before :=
  of_ok (result_done after)

theorem failed (before : Interpreter K) (fault : Fault) :
    (Outcome.failed fault before : Outcome Fault K Result).Contained before :=
  fun _ _ => rfl

theorem mapFault {Other : Type} {before : Interpreter K} {outcome : Outcome Fault K Result}
    (contained : outcome.Contained before) (change : Fault → Other) :
    (outcome.mapFault change).Contained before := by
  intro other failed
  cases result : outcome.result with
  | ok value =>
      rw [result_mapFault, result] at failed
      cases failed
  | error fault => exact contained fault result

end Outcome.Contained

namespace Surroundings

theorem contained_moveText (fault : CommandFault K) (change : TextMatrices K → TextMatrices K)
    (interpreter : Interpreter K) : (moveText fault change interpreter).Contained interpreter := by
  unfold moveText
  split
  · exact .failed interpreter fault
  · exact .done interpreter _

variable [Scalar K] (surroundings : Surroundings K)

theorem contained_drawForm (form : Located Stream) (interpreter : Interpreter K) :
    (surroundings.drawForm form interpreter).Contained interpreter := by
  unfold drawForm
  split
  · exact .failed interpreter _
  · exact .done interpreter _

theorem contained_showString (bytes : List UInt8) (interpreter : Interpreter K) :
    (surroundings.showString bytes interpreter).Contained interpreter := by
  unfold showString
  dsimp only
  split
  · exact .failed interpreter _
  · exact .failed interpreter _
  · exact .failed interpreter _
  · exact .done interpreter _

theorem contained_drawExternal (name : String) (interpreter : Interpreter K) :
    (surroundings.drawExternal name interpreter).Contained interpreter := by
  unfold drawExternal
  split
  · exact .failed interpreter _
  · dsimp only
    split
    · exact (surroundings.contained_drawForm _ interpreter).mapFault _
    · split
      · exact .done interpreter _
      · exact .done interpreter _

theorem contained_selectState (name : String) (interpreter : Interpreter K) :
    (surroundings.selectState name interpreter).Contained interpreter := by
  unfold selectState
  split
  · exact .failed interpreter _
  · exact .done interpreter _
  · exact .done interpreter _

theorem execute_ok {command : Command K} (certain : command.mayFail = false)
    (interpreter : Interpreter K) :
    (surroundings.execute command interpreter).result = .ok () := by
  cases command with
  | graphicsState | moveText | textMatrix | nextLine | «show» | adjust | selectSpace
  | external => cases certain
  | glyphBox | inlineImage =>
      simp only [execute]
      split <;> rfl
  | _ => rfl

/-- Every command is done as a whole or not at all. -/
theorem contained_execute (command : Command K) (interpreter : Interpreter K) :
    (surroundings.execute command interpreter).Contained interpreter := by
  cases command with
  | graphicsState name => exact surroundings.contained_selectState name interpreter
  | moveText | textMatrix | nextLine | adjust => exact contained_moveText _ _ interpreter
  | «show» bytes => exact surroundings.contained_showString bytes interpreter
  | external name => exact surroundings.contained_drawExternal name interpreter
  | selectSpace role name =>
      simp only [execute]
      split
      · exact .done interpreter _
      · exact .failed interpreter _
      · exact .done interpreter _
  | _ => exact .of_ok (surroundings.execute_ok rfl interpreter)

theorem executeAll_ok {instructions : List (Instruction K)}
    (certain : ∀ instruction ∈ instructions, instruction.command.mayFail = false)
    (interpreter : Interpreter K) :
    (surroundings.executeAll instructions interpreter).result = .ok () := by
  induction instructions generalizing interpreter with
  | nil => rfl
  | cons instruction rest ih =>
      have first := surroundings.execute_ok (certain _ List.mem_cons_self) interpreter
      simp only [executeAll, first]
      exact ih (fun later member => certain later (List.mem_cons_of_mem _ member)) _

theorem contained_executeAll {instructions : List (Instruction K)}
    (certain : ∀ later ∈ instructions.tail, later.command.mayFail = false)
    (interpreter : Interpreter K) :
    (surroundings.executeAll instructions interpreter).Contained interpreter := by
  cases instructions with
  | nil => exact .done interpreter interpreter
  | cons instruction rest =>
      simp only [executeAll]
      split
      · exact .of_ok (surroundings.executeAll_ok certain _)
      · next fault failed =>
          intro _ _
          exact surroundings.contained_execute instruction.command interpreter fault failed

/-- An operator that fails leaves everything as it was: all graphics states, the path, the text
object, what belongs to the stream, the fonts that were read, the rank and what was reported. The
operators that show several strings, or move to the next line first, are no such operators. -/
theorem failing_operator_changes_nothing {name : String} {operator : Operator}
    (known : Operator.ofName? name = some operator) (single : name ∉ ["TJ", "'", "\""])
    (operands : List (Operand K)) (interpreter : Interpreter K) {failure : Failure}
    (failed : (surroundings.handle operator operands interpreter).result = .error failure) :
    (surroundings.handle operator operands interpreter).interpreter = interpreter := by
  have otherName {combined : Operator} (listed : combined.name ∈ ["TJ", "'", "\""]) :
      operator ≠ combined := by
    rintro rfl
    exact single (Operator.name_of_ofName? known ▸ listed)
  have contained : (surroundings.handle operator operands interpreter).Contained interpreter := by
    unfold handle
    split
    · exact .failed interpreter _
    · next instructions found =>
        exact surroundings.contained_executeAll
          (Operator.mayFail_of_read (otherName (by decide)) (otherName (by decide))
            (otherName (by decide)) found) interpreter
  exact contained failure failed

/-- Moving to another line and setting the leading, where no text object is open. -/
theorem moving_outside_text_changes_nothing :
    let setting : Setting := ⟨⟨[], []⟩, {}⟩
    let moving := (Surroundings.mk setting fun _ interpreter => interpreter).handle
      .moveTextSetLeading [.integer 3, .integer 2] (Interpreter.start (K := Float))
    Operator.ofName? "TD" = some .moveTextSetLeading ∧ "TD" ∉ ["TJ", "'", "\""] ∧
      moving.result = .error (.operator "TD" "used outside BT/ET") ∧
      moving.interpreter = .start := by
  intro setting moving
  have known : Operator.ofName? "TD" = some .moveTextSetLeading := by decide
  have single : "TD" ∉ ["TJ", "'", "\""] := by decide
  have failed : moving.result = .error (.operator "TD" "used outside BT/ET") := rfl
  exact ⟨known, single, failed, failing_operator_changes_nothing _ known single _ _ failed⟩

end Surroundings

end PdfElements
