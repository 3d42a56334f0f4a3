import PdfElements.Geometry.Matrix

/-!
Axis-parallel rectangles, ordered by inclusion. The empty rectangle has inverted infinite bounds,
which makes it neutral for union and lets points be added to it one by one.
-/

set_option autoImplicit false

namespace PdfElements

/-- The points with `minX ≤ x ≤ maxX` and `minY ≤ y ≤ maxY`. -/
structure Rect (K : Type) where
  minX : K
  minY : K
  maxX : K
  maxY : K
  deriving DecidableEq, Repr

namespace Rect

variable {K : Type} [Scalar K]

def empty : Rect K :=
  ⟨Scalar.infinity, Scalar.infinity, -Scalar.infinity, -Scalar.infinity⟩

/-- The rectangle with two opposite corners, given in any order. -/
def ofCorners (x₀ y₀ x₁ y₁ : K) : Rect K :=
  ⟨Scalar.lesser x₀ x₁, Scalar.lesser y₀ y₁, Scalar.greater x₀ x₁, Scalar.greater y₀ y₁⟩

def addPoint (rect : Rect K) (point : Point K) : Rect K where
  minX := Scalar.lesser rect.minX point.x
  minY := Scalar.lesser rect.minY point.y
  maxX := Scalar.greater rect.maxX point.x
  maxY := Scalar.greater rect.maxY point.y

def ofPoints (points : List (Point K)) : Rect K := points.foldl addPoint empty

def isEmpty (rect : Rect K) : Bool := rect.maxX < rect.minX || rect.maxY < rect.minY

def width (rect : Rect K) : K := rect.maxX - rect.minX

def height (rect : Rect K) : K := rect.maxY - rect.minY

def area (rect : Rect K) : K :=
  if rect.isEmpty then Scalar.ofInt 0 else rect.width * rect.height

def midpoint (rect : Rect K) : Point K where
  x := (rect.minX + rect.maxX) / Scalar.ofInt 2
  y := (rect.minY + rect.maxY) / Scalar.ofInt 2

def union (first second : Rect K) : Rect K where
  minX := Scalar.lesser first.minX second.minX
  minY := Scalar.lesser first.minY second.minY
  maxX := Scalar.greater first.maxX second.maxX
  maxY := Scalar.greater first.maxY second.maxY

/-- The common points of two rectangles; none when there are none. -/
def intersection? (first second : Rect K) : Option (Rect K) :=
  let common : Rect K :=
    { minX := Scalar.greater first.minX second.minX
      minY := Scalar.greater first.minY second.minY
      maxX := Scalar.lesser first.maxX second.maxX
      maxY := Scalar.lesser first.maxY second.maxY }
  if common.isEmpty then none else some common

/-- Whether all of `inner` lies in `outer`, edges included. -/
def contains (outer inner : Rect K) : Bool :=
  outer.minX ≤ inner.minX && inner.maxX ≤ outer.maxX && outer.minY ≤ inner.minY &&
    inner.maxY ≤ outer.maxY

def containsPoint (rect : Rect K) (point : Point K) : Bool :=
  rect.minX ≤ point.x && point.x ≤ rect.maxX && rect.minY ≤ point.y && point.y ≤ rect.maxY

def overlapsHorizontally (first second : Rect K) : Bool :=
  first.minX ≤ second.maxX && second.minX ≤ first.maxX

def overlapsVertically (first second : Rect K) : Bool :=
  first.minY ≤ second.maxY && second.minY ≤ first.maxY

def overlaps (first second : Rect K) : Bool :=
  first.overlapsHorizontally second && first.overlapsVertically second

/-- Length of the common extent along x; zero when there is none. -/
def horizontalOverlap (first second : Rect K) : K :=
  Scalar.greater
    (Scalar.lesser first.maxX second.maxX - Scalar.greater first.minX second.minX)
    (Scalar.ofInt 0)

/-- Length of the common extent along y; zero when there is none. -/
def verticalOverlap (first second : Rect K) : K :=
  Scalar.greater
    (Scalar.lesser first.maxY second.maxY - Scalar.greater first.minY second.minY)
    (Scalar.ofInt 0)

/-- The part of the first rectangle's area that the second one covers; zero without an area. -/
def overlapRatio (first second : Rect K) : K :=
  if first.area ≤ Scalar.ofInt 0 then Scalar.ofInt 0
  else
    match first.intersection? second with
    | some common => common.area / first.area
    | none => Scalar.ofInt 0

/-- Every bound rounded; a rectangle without points stays as it is. -/
def rounded (rect : Rect K) (places? : Option Nat) : Rect K :=
  if rect.isEmpty then rect
  else
    { minX := Scalar.roundTo rect.minX places?
      minY := Scalar.roundTo rect.minY places?
      maxX := Scalar.roundTo rect.maxX places?
      maxY := Scalar.roundTo rect.maxY places? }

/-- The corners of the rectangle with the given bounds, in the order bottom left, bottom right,
top left, top right. -/
def corners {K : Type} (left bottom right top : K) : List (Point K) :=
  [⟨left, bottom⟩, ⟨right, bottom⟩, ⟨left, top⟩, ⟨right, top⟩]

/-- The smallest rectangle around the image of a rectangle with the given bounds. -/
def image (matrix : Matrix K) (left bottom right top : K) : Rect K :=
  ofPoints ((corners left bottom right top).map matrix.apply)

end Rect

end PdfElements
