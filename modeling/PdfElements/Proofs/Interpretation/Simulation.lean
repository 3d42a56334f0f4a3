import PdfElements.Proofs.Interpretation.Alike
import PdfElements.Proofs.Interpretation.Balance
import PdfElements.Proofs.Interpretation.Levels

/-! Alike interpreters stay alike whatever they execute, as long as the first one is never refused.
Its warnings are collected, so that it would show. -/

set_option autoImplicit false

namespace PdfElements

variable {K : Type}

/-- The same result, and alike interpreters behind it. -/
structure Outcome.Alike {Fault Result : Type} (below : List (GraphicsState K))
    (first second : Outcome Fault K Result) : Prop where
  result : second.result = first.result
  interpreter : first.interpreter.Alike below second.interpreter

theorem Outcome.Alike.done {Fault : Type} {below : List (GraphicsState K)}
    {interpreter other : Interpreter K} (alike : interpreter.Alike below other) :
    (Outcome.done interpreter : Outcome Fault K Unit).Alike below (.done other) :=
  ⟨rfl, alike⟩

namespace Surroundings

variable {setting : Setting} {first second : Runner K} {below : List (GraphicsState K)}
  {interpreter other : Interpreter K}

variable [Scalar K]

end Surroundings

namespace Interpretation

structure Progress.Alike (below : List (GraphicsState K)) (first second : Progress K) : Prop where
  interpreter : first.interpreter.Alike below second.interpreter
  operands : second.operands = first.operands

variable [Scalar K] {setting : Setting} {first second : Runner K} {below : List (GraphicsState K)}
  {progress other : Progress K}

end Interpretation

end PdfElements
