import Mathlib.Data.List.Infix
import PdfElements.Proofs.Interpretation.Simulation
import PdfElements.Proofs.Object.Located

/-! Drawing a form that has no resources of its own is running its content in place, between saving
and restoring the graphics state. -/

set_option autoImplicit false

namespace PdfElements.Interpretation

variable {K : Type} [Scalar K]

def opening (matrix : Matrix K) : List (Token K) :=
  let numbers := [matrix.a, matrix.b, matrix.c, matrix.d, matrix.e, matrix.f]
  .operator "q" :: numbers.map (fun number => .operand (.real number)) ++ [.operator "cm"]

/-- The content of a form as a part of the stream around it: between saving and restoring the
graphics state, and under the form's matrix. -/
def inlined (store : ObjectStore) (form : Stream) (content : List (Token K)) : List (Token K) :=
  opening ((Surroundings.formMatrix? store form.entries).getD .identity) ++ content ++
    [.operator "Q"]

end PdfElements.Interpretation
