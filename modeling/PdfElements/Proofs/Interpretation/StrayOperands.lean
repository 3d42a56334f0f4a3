import PdfElements.Interpretation.Execution

/-! Operands that no operator asked for. An operator takes its operands from the top of the stack,
and what lies below makes no difference to it. Operators that set the components of a color take all
numbers that there are, the lowest first, so that stray numbers stand before the components. -/

set_option autoImplicit false

namespace PdfElements

variable {K : Type}

namespace Operands

/-- What is read of a stack, if anything is, is read whatever lies below. -/
def FromTop {α : Type} (read : List (Operand K) → Except (OperandFault K) α) : Prop :=
  ∀ stack value, read stack = .ok value → ∀ below, read (stack ++ below) = .ok value

namespace FromTop

variable {α β : Type}

theorem of (result : Except (OperandFault K) α) : FromTop fun _ => result :=
  fun _ _ read _ => read

theorem bind {read : List (Operand K) → Except (OperandFault K) α}
    {next : α → List (Operand K) → Except (OperandFault K) β} (first : FromTop read)
    (second : ∀ value, FromTop (next value)) :
    FromTop fun stack => read stack >>= (next · stack) := by
  intro stack result found below
  simp only at found ⊢
  cases taken : read stack with
  | error fault =>
      rw [taken] at found
      cases found
  | ok value =>
      rw [taken] at found
      rw [first stack value taken below]
      exact second value stack result found below

theorem last : FromTop (K := K) last := by
  intro stack value read below
  cases stack with
  | nil => cases read
  | cons operand rest => exact read

variable [Scalar K]

theorem one : FromTop (K := K) one := by
  intro stack value read below
  cases stack with
  | nil => cases read
  | cons operand rest => exact read

theorem point : FromTop (K := K) point := by
  intro stack value read below
  match stack, read with
  | _ :: _ :: _, read => exact read

theorem three : FromTop (K := K) three := by
  intro stack value read below
  match stack, read with
  | _ :: _ :: _ :: _, read => exact read

theorem twoPoints : FromTop (K := K) twoPoints := by
  intro stack value read below
  match stack, read with
  | _ :: _ :: _ :: _ :: _, read => exact read

theorem threePoints : FromTop (K := K) threePoints := by
  intro stack value read below
  match stack, read with
  | _ :: _ :: _ :: _ :: _ :: _ :: _, read => exact read

theorem matrix : FromTop (K := K) matrix := threePoints.bind fun _ => .of _

theorem pointBelow : FromTop (K := K) fun stack => Operands.point (stack.drop 1) := by
  intro stack value read below
  cases stack with
  | nil => cases read
  | cons operand rest => exact point rest value read below

end FromTop

end Operands

namespace Operator

open Operands

/-- The color whose components an operator sets, if it sets any. -/
def coloring? : Operator → Option ColorRole
  | strokingColor | strokingColorOrPattern => some .stroking
  | fillingColor | fillingColorOrPattern => some .filling
  | _ => none

variable [Scalar K]

theorem fromTop_read {operator : Operator} (notImage : operator ≠ .inlineImage)
    (colorless : operator.coloring? = none) : FromTop (operator.read (K := K)) := by
  cases operator with
  | inlineImage => exact absurd rfl notImage
  | strokingColor | strokingColorOrPattern | fillingColor | fillingColorOrPattern =>
      cases colorless
  | save | restore | closePath | stroke | closeStroke | fill | fillObsolete | fillEvenOdd
  | fillStroke | fillStrokeEvenOdd | closeFillStroke | closeFillStrokeEvenOdd | endPath | clip
  | clipEvenOdd | beginText | endText | nextLine => exact .of _
  | concat | textMatrix => exact FromTop.matrix.bind fun _ => .of _
  | move | line | moveText | moveTextSetLeading | glyphWidth =>
      exact FromTop.point.bind fun _ => .of _
  | curve | glyphBox => exact FromTop.threePoints.bind fun _ => .of _
  | curveFromCurrent | curveToTarget | rectangle | strokingCmyk | fillingCmyk =>
      exact FromTop.twoPoints.bind fun _ => .of _
  | characterSpacing | wordSpacing | horizontalScaling | leading | rise | strokingGray
  | fillingGray => exact FromTop.one.bind fun _ => .of _
  | strokingRgb | fillingRgb => exact FromTop.three.bind fun _ => .of _
  | textMode => exact FromTop.one.bind fun _ => .of _
  | graphicsState | showText | showAdjusted | showNextLine | strokingSpace | fillingSpace
  | external => exact FromTop.last.bind fun _ => .of _
  | showNextLineSpaced =>
      refine FromTop.last.bind fun _ => .bind (.of _) fun _ => ?_
      exact FromTop.pointBelow.bind fun _ => .of _
  | font =>
      refine FromTop.one.bind fun size => ?_
      intro stack instructions read below
      match stack, read with
      | _ :: _ :: _, read => exact read

theorem read_of_coloring {operator : Operator} {role : ColorRole}
    (coloring : operator.coloring? = some role) (stack : List (Operand K)) :
    operator.read stack = .ok [⟨operator, .components role (allComponents stack)⟩] := by
  cases operator with
  | strokingColor | strokingColorOrPattern | fillingColor | fillingColorOrPattern =>
      cases coloring
      rfl
  | _ => cases coloring

end Operator

def GraphicsState.inkOf (state : GraphicsState K) : ColorRole → Ink
  | .stroking => state.stroking
  | .filling => state.filling

namespace Surroundings

open Operands

variable {role : ColorRole} {interpreter : Interpreter K}

theorem inkOf_changeInk (role : ColorRole) (change : Ink → Ink) (interpreter : Interpreter K) :
    (changeInk role change interpreter).state.current.inkOf role =
      change (interpreter.state.current.inkOf role) := by
  cases role <;> rfl

theorem changeInk_eq_const (role : ColorRole) (change : Ink → Ink) (interpreter : Interpreter K) :
    changeInk role change interpreter =
      changeInk role (fun _ => change (interpreter.state.current.inkOf role)) interpreter := by
  cases role <;> rfl

theorem changeInk_components_inj {values others : List Float32} :
    changeInk role (·.withComponents values) interpreter =
        changeInk role (·.withComponents others) interpreter ↔
      (interpreter.state.current.inkOf role).space.toColor values =
        (interpreter.state.current.inkOf role).space.toColor others := by
  constructor
  · intro same
    have inks := congrArg (fun changed => (changed.state.current.inkOf role).color) same
    simp only [inkOf_changeInk] at inks
    exact inks
  · intro same
    rw [changeInk_eq_const, changeInk_eq_const role (·.withComponents others)]
    simp only [Ink.withComponents, same]

variable [Scalar K]

theorem handle_of_coloring {operator : Operator} (coloring : operator.coloring? = some role)
    (surroundings : Surroundings K) (stack : List (Operand K)) (interpreter : Interpreter K) :
    surroundings.handle operator stack interpreter =
      .done (changeInk role (fun ink => ink.withComponents (allComponents stack)) interpreter) := by
  rw [handle, Operator.read_of_coloring coloring]
  rfl

theorem allComponents_append (stack below : List (Operand K)) :
    allComponents (stack ++ below) = allComponents below ++ allComponents stack := by
  simp [allComponents]

/-- An operator with operands that suit it does the same behind stray operands, unless it sets the
components of a color: then if, and only if, the stray numbers and its own ones together stand for
the color that its own ones stand for. -/
theorem stray_operands_change_only_components (surroundings : Surroundings K)
    {operator : Operator} {operands : List (Operand K)} {instructions : List (Instruction K)}
    (notImage : operator ≠ .inlineImage) (suits : operator.read operands.reverse = .ok instructions)
    (stray : List (Operand K)) (interpreter : Interpreter K) :
    surroundings.handle operator (stray ++ operands).reverse interpreter =
        surroundings.handle operator operands.reverse interpreter ↔
      ∀ role, operator.coloring? = some role →
        let space := (interpreter.state.current.inkOf role).space
        space.toColor (allComponents stray.reverse ++ allComponents operands.reverse) =
          space.toColor (allComponents operands.reverse) := by
  rw [List.reverse_append]
  cases coloring : operator.coloring? with
  | none =>
      have same := Operator.fromTop_read notImage coloring _ _ suits stray.reverse
      rw [handle, handle, suits, same]
      simp
  | some role =>
      rw [handle_of_coloring coloring, handle_of_coloring coloring, allComponents_append]
      constructor
      · rintro same _ ⟨⟩
        exact changeInk_components_inj.mp (congrArg Outcome.interpreter same)
      · intro same
        exact congrArg Outcome.done (changeInk_components_inj.mpr (same role rfl))

/-- In a space of grays `1 sc` selects white, and `0 1 sc` selects black. -/
theorem stray_zero_selects_black :
    let surroundings : Surroundings Float := ⟨⟨⟨[], []⟩, {}⟩, fun _ interpreter => interpreter⟩
    let start : Interpreter Float := .start
    let stray : List (Operand Float) := [.integer 0]
    let operands : List (Operand Float) := [.integer 1]
    Operator.fillingColor ≠ .inlineImage ∧
      Operator.fillingColor.read operands.reverse =
        .ok [⟨.fillingColor, .components .filling [Scalar.toSingle (Scalar.ofInt 1 : Float)]⟩] ∧
      surroundings.handle .fillingColor (stray ++ operands).reverse start ≠
        surroundings.handle .fillingColor operands.reverse start := by
  intro surroundings start stray operands
  have notImage : Operator.fillingColor ≠ .inlineImage := by decide
  have suits : Operator.fillingColor.read operands.reverse =
      .ok [⟨.fillingColor, .components .filling [Scalar.toSingle (Scalar.ofInt 1 : Float)]⟩] := rfl
  refine ⟨notImage, suits, ?_⟩
  intro same
  have colors := stray_operands_change_only_components surroundings notImage suits stray start
  have white := colors.mp same .filling rfl
  revert white
  decide

end Surroundings

end PdfElements
