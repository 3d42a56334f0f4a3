import PdfElements.Geometry.Rect

/-!
Paths under construction. Points enter through the transformation in force when they are appended
and are stored in device space, so a later change of the transformation leaves them alone.
-/

set_option autoImplicit false

namespace PdfElements

inductive Segment (K : Type) where
  | move (target : Point K)
  | line (target : Point K)
  | curve (control₁ control₂ target : Point K)
  | close
  deriving DecidableEq, Repr

def Segment.points {K : Type} : Segment K → List (Point K)
  | .move target => [target]
  | .line target => [target]
  | .curve control₁ control₂ target => [control₁, control₂, target]
  | .close => []

/-- The smallest rectangle around all points of a path, control points included; none without
points. -/
def Segment.bounds? {K : Type} [Scalar K] (segments : List (Segment K)) : Option (Rect K) :=
  let rect := Rect.ofPoints (segments.flatMap Segment.points)
  if rect.isEmpty then none else some rect

/-- The path built so far, where the pen is and where the current subpath began. -/
structure Path (K : Type) where
  segments : Array (Segment K)
  current? : Option (Point K)
  start? : Option (Point K)
  deriving DecidableEq, Repr

namespace Path

variable {K : Type}

def empty : Path K := ⟨#[], none, none⟩

def isEmpty (path : Path K) : Bool := path.segments.isEmpty

def startAt (path : Path K) (point : Point K) : Path K :=
  { segments := path.segments.push (.move point), current? := some point, start? := some point }

def curveTo (path : Path K) (control₁ control₂ target : Point K) : Path K :=
  { path with
    segments := path.segments.push (.curve control₁ control₂ target), current? := some target }

def close (path : Path K) : Path K :=
  match path.current? with
  | none => path
  | some _ => { path with segments := path.segments.push .close, current? := path.start? }

variable [Scalar K]

/-- The smallest rectangle around all points appended, control points included. -/
def bounds? (path : Path K) : Option (Rect K) := Segment.bounds? path.segments.toList

def move (path : Path K) (matrix : Matrix K) (target : Point K) : Path K :=
  path.startAt (matrix.apply target)

/-- Draws a straight line, also when the pen is nowhere. -/
def line (path : Path K) (matrix : Matrix K) (target : Point K) : Path K :=
  let point := matrix.apply target
  { path with segments := path.segments.push (.line point), current? := some point }

def curve (path : Path K) (matrix : Matrix K) (control₁ control₂ target : Point K) : Path K :=
  match path.current? with
  | none => path.startAt (matrix.apply target)
  | some _ =>
    path.curveTo (matrix.apply control₁) (matrix.apply control₂) (matrix.apply target)

/-- Draws a curve whose first control point is where the pen is. -/
def curveFromCurrent (path : Path K) (matrix : Matrix K) (control₂ target : Point K) : Path K :=
  match path.current? with
  | none => path.startAt (matrix.apply target)
  | some current => path.curveTo current (matrix.apply control₂) (matrix.apply target)

def curveToTarget (path : Path K) (matrix : Matrix K) (control₁ target : Point K) : Path K :=
  match path.current? with
  | none => path.startAt (matrix.apply target)
  | some _ =>
    path.curveTo (matrix.apply control₁) (matrix.apply target) (matrix.apply target)

def rectangle (path : Path K) (matrix : Matrix K) (x y width height : K) : Path K :=
  ((((path.move matrix ⟨x, y⟩).line matrix ⟨x + width, y⟩).line matrix
    ⟨x + width, y + height⟩).line matrix ⟨x, y + height⟩).close

end Path

inductive FillRule where
  | nonZero
  | evenOdd
  deriving DecidableEq, Repr

inductive Paint where
  | stroke
  | fill (rule : FillRule)
  deriving DecidableEq, Repr

def Paint.usesStrokingColor : Paint → Bool
  | .stroke => true
  | .fill _ => false

end PdfElements
