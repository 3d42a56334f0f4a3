import PdfElements.Scalar

/-!
Points and affine maps of the plane. A point is a row vector, so a product of matrices applies its
first factor first.
-/

set_option autoImplicit false

namespace PdfElements

structure Point (K : Type) where
  x : K
  y : K
  deriving DecidableEq, Repr

/-- The map that takes `(x, y)` to `(a x + c y + e, b x + d y + f)`. -/
structure Matrix (K : Type) where
  a : K
  b : K
  c : K
  d : K
  e : K
  f : K
  deriving DecidableEq, Repr

namespace Matrix

variable {K : Type} [Scalar K]

def identity : Matrix K :=
  ⟨Scalar.ofInt 1, Scalar.ofInt 0, Scalar.ofInt 0, Scalar.ofInt 1, Scalar.ofInt 0, Scalar.ofInt 0⟩

def translation (x y : K) : Matrix K :=
  ⟨Scalar.ofInt 1, Scalar.ofInt 0, Scalar.ofInt 0, Scalar.ofInt 1, x, y⟩

def scaling (x y : K) : Matrix K :=
  ⟨x, Scalar.ofInt 0, Scalar.ofInt 0, y, Scalar.ofInt 0, Scalar.ofInt 0⟩

/-- The matrix of six entries in the order in which documents write them. -/
def ofList? {K : Type} : List K → Option (Matrix K)
  | [a, b, c, d, e, f] => some ⟨a, b, c, d, e, f⟩
  | _ => none

/-- The map that applies `first`, then `second`. -/
def concat (first second : Matrix K) : Matrix K where
  a := first.a * second.a + first.b * second.c
  b := first.a * second.b + first.b * second.d
  c := first.c * second.a + first.d * second.c
  d := first.c * second.b + first.d * second.d
  e := first.e * second.a + first.f * second.c + second.e
  f := first.e * second.b + first.f * second.d + second.f

def apply (matrix : Matrix K) (point : Point K) : Point K where
  x := matrix.a * point.x + matrix.c * point.y + matrix.e
  y := matrix.b * point.x + matrix.d * point.y + matrix.f

/-- How much the map stretches a horizontal distance; with its sign where there is no skew. -/
def horizontalScale (matrix : Matrix K) : K :=
  if matrix.b != Scalar.ofInt 0 then
    Scalar.squareRoot (matrix.a * matrix.a + matrix.b * matrix.b)
  else matrix.a

end Matrix

end PdfElements
