import PdfElements.Proofs.Arithmetic.Rational
import PdfElements.Proofs.Geometry.Composition
import PdfElements.Proofs.Interpretation.Places

/-! Transformations that follow one another. Each operator puts its matrix before the current one,
so several operators in a row do what a single one does with the product of their matrices, to all
that is placed after them. -/

set_option autoImplicit false

namespace PdfElements

variable {K : Type} [Scalar K]

namespace Interpreter

def transform (matrix : Matrix K) (interpreter : Interpreter K) : Interpreter K :=
  interpreter.modify fun state => state.modify fun graphics => graphics.concat matrix

theorem Parallels.transform {one other : Interpreter K} (parallels : one.Parallels other)
    (matrix : Matrix K) : (one.transform matrix).Parallels (other.transform matrix) :=
  { parallels with
    state := congrArg (StreamState.modify · fun graphics => graphics.concat matrix)
      parallels.state }

variable [Scalar.Exact K]

theorem transform_identity (interpreter : Interpreter K) :
    interpreter.transform .identity = interpreter := by
  simp only [transform, StreamState.modify, GraphicsStack.modify, GraphicsState.concat_identity]
  rfl

theorem transform_transform (first second : Matrix K) (interpreter : Interpreter K) :
    (interpreter.transform first).transform second =
      interpreter.transform (second.concat first) := by
  simp only [transform, Interpreter.modify, StreamState.modify, GraphicsStack.modify,
    GraphicsState.concat_concat]

end Interpreter

namespace Interpretation

/-- Operands, the first one first, that the operator reads as a matrix. -/
def Writes (operands : List (Operand K)) (matrix : Matrix K) : Prop :=
  Operands.matrix operands.reverse = .ok matrix

def transformation (operands : List (Operand K)) : List (Token K) :=
  operands.map .operand ++ [.operator "cm"]

theorem foldl_operands (surroundings : Surroundings K) (operands before : List (Operand K))
    (interpreter : Interpreter K) (index : Nat) :
    (operands.map Token.operand).foldl (step surroundings) ⟨interpreter, before, index⟩ =
      ⟨interpreter, operands.reverse ++ before, index⟩ := by
  induction operands generalizing before with
  | nil => rfl
  | cons operand rest ih =>
      rw [List.map_cons, List.foldl_cons, List.reverse_cons, List.append_assoc]
      exact ih (operand :: before)

theorem foldl_transformation (surroundings : Surroundings K) {operands : List (Operand K)}
    {matrix : Matrix K} (written : Writes operands matrix) (interpreter : Interpreter K)
    (index : Nat) :
    (transformation operands).foldl (step surroundings) ⟨interpreter, [], index⟩ =
      ⟨(interpreter.moveTo ⟨some .concat, index⟩).transform matrix, [], index + 1⟩ := by
  have found : Operator.ofName? "cm" = some .concat := by decide
  have read : Operator.concat.read operands.reverse = .ok [⟨.concat, .concat matrix⟩] := by
    rw [Operator.read, written]
    rfl
  rw [transformation, List.foldl_append, foldl_operands, List.append_nil]
  simp only [List.foldl_cons, List.foldl_nil, step, Surroundings.dispatch, found,
    Surroundings.handle, read]
  rfl

variable [Scalar.Exact K]

/-- Behind operators in a row it is as behind the product of their matrices, but for places. -/
theorem parallels_transformations (surroundings : Surroundings K)
    {written : List (List (Operand K))} {matrices : List (Matrix K)}
    (each : List.Forall₂ Writes written matrices) {interpreter start : Interpreter K}
    (parallels : interpreter.Parallels start) (index place : Nat) :
    Progress.Parallels ⟨interpreter.transform (Matrix.product matrices), [], place⟩
      ((written.flatMap transformation).foldl (step surroundings) ⟨start, [], index⟩) := by
  induction each generalizing interpreter start index with
  | nil =>
      rw [Matrix.product, List.foldl_nil, Interpreter.transform_identity]
      exact ⟨parallels, rfl⟩
  | @cons operands matrix rest matrices first _ ih =>
      rw [List.flatMap_cons, List.foldl_append, foldl_transformation surroundings first,
        Matrix.product_cons, ← Interpreter.transform_transform]
      exact ih ((parallels.beside _).transform matrix) (index + 1)

/-- Matrices are a monoid that acts on points. So operators in a row, any number of them, leave the
state that a single one with the product of their matrices leaves; whatever runs behind them finds
the same path, matrices and boxes, and reports the same. -/
theorem transformations_in_a_row_are_their_product :
    ((∀ first second third : Matrix K,
        (first.concat second).concat third = first.concat (second.concat third)) ∧
      (∀ matrix : Matrix K,
        Matrix.identity.concat matrix = matrix ∧ matrix.concat .identity = matrix) ∧
      (∀ point : Point K, (Matrix.identity : Matrix K).apply point = point) ∧
      ∀ (first second : Matrix K) (point : Point K),
        (first.concat second).apply point = second.apply (first.apply point)) ∧
    ∀ (setting : Setting) (interpreter : Interpreter K) (index : Nat)
      (written : List (List (Operand K))) (matrices : List (Matrix K)) (single : List (Operand K)),
      List.Forall₂ Writes written matrices → Writes single (Matrix.product matrices) →
      let reach (tokens : List (Token K)) :=
        (tokens.foldl (step (surroundings setting)) ⟨interpreter, [], index⟩).interpreter
      (reach (written.flatMap transformation)).state.current.matrix =
        (Matrix.product matrices).concat interpreter.state.current.matrix ∧
      ∀ later : List (Token K),
        let apart := reach (written.flatMap transformation ++ later)
        let together := reach (transformation single ++ later)
        together.state = apart.state ∧
          together.events.toList.map Event.unplaced = apart.events.toList.map Event.unplaced := by
  refine ⟨⟨Matrix.concat_assoc, ?_, Matrix.apply_identity, Matrix.apply_concat⟩, ?_⟩
  · exact fun matrix => ⟨Matrix.identity_concat matrix, Matrix.concat_identity matrix⟩
  · intro setting interpreter index written matrices single each whole reach
    have same := Interpreter.Parallels.refl interpreter
    have apart := parallels_transformations (surroundings setting) each same index index
    refine ⟨congrArg (·.current.matrix) apart.interpreter.state, ?_⟩
    intro later
    have together : Progress.Parallels
        ⟨interpreter.transform (Matrix.product matrices), [], index⟩
        ((transformation single).foldl (step (surroundings setting)) ⟨interpreter, [], index⟩) := by
      rw [foldl_transformation (surroundings setting) whole]
      exact ⟨(same.beside _).transform _, rfl⟩
    have nested : (surroundings setting : Surroundings K).nested.KeepsAbreast :=
      keepsAbreast_run setting
    replace apart := (parallels_steps nested apart later).interpreter
    replace together := (parallels_steps nested together later).interpreter
    simp only [reach, List.foldl_append]
    exact ⟨together.state.trans apart.state.symm, together.events.trans apart.events.symm⟩

theorem shift_in_doubled_space_is_doubled :
    let setting : Setting := ⟨⟨[], []⟩, {}⟩
    let doubling : List (Operand ℚ) := [2, 0, 0, 2, 0, 0].map .integer
    let shift : List (Operand ℚ) := [1, 0, 0, 1, 10, 0].map .integer
    let both : List (Operand ℚ) := [2, 0, 0, 2, 20, 0].map .integer
    let reach (tokens : List (Token ℚ)) :=
      (tokens.foldl (step (surroundings setting)) ⟨.start, [], 0⟩).interpreter
    (reach ([doubling, shift].flatMap transformation)).state.current.matrix =
        ⟨2, 0, 0, 2, 20, 0⟩ ∧
      ∀ later, (reach (transformation both ++ later)).state =
        (reach ([doubling, shift].flatMap transformation ++ later)).state := by
  intro setting doubling shift both reach
  have each : List.Forall₂ Writes [doubling, shift]
      [(⟨2, 0, 0, 2, 0, 0⟩ : Matrix ℚ), ⟨1, 0, 0, 1, 10, 0⟩] :=
    .cons rfl (.cons rfl .nil)
  have product : Matrix.product [(⟨2, 0, 0, 2, 0, 0⟩ : Matrix ℚ), ⟨1, 0, 0, 1, 10, 0⟩] =
      ⟨2, 0, 0, 2, 20, 0⟩ := by decide +kernel
  have whole : Writes both
      (Matrix.product [(⟨2, 0, 0, 2, 0, 0⟩ : Matrix ℚ), ⟨1, 0, 0, 1, 10, 0⟩]) := by
    rw [product]
    rfl
  obtain ⟨matrix, after⟩ := transformations_in_a_row_are_their_product.2 setting .start 0
    [doubling, shift] _ both each whole
  constructor
  · refine matrix.trans ?_
    decide +kernel
  · intro later
    exact (after later).1

end Interpretation

end PdfElements
