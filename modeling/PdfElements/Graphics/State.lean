import PdfElements.ColorSpace
import PdfElements.Graphics.Text
import PdfElements.Path

/-!
Graphics state: what painting depends on, and the stack on which it is saved.
-/

set_option autoImplicit false

namespace PdfElements

/-- A color as it is selected: the space that later components count in, and the color itself. -/
structure Ink where
  space : ColorSpace
  color : Color
  deriving DecidableEq, Repr

namespace Ink

def ofSpace (space : ColorSpace) : Ink := ⟨space, space.initialColor⟩

def withComponents (ink : Ink) (components : List Float32) : Ink :=
  { ink with color := ink.space.toColor components }

end Ink

/-- What painting depends on. -/
structure GraphicsState (K : Type) where
  /-- From user space to device space. -/
  matrix : Matrix K
  stroking : Ink
  filling : Ink
  text : TextParameters K
  pendingClip? : Option FillRule
  clipBox : Rect K

namespace GraphicsState

variable {K : Type} [Scalar K]

/-- The state at the start of a page of which the given box is visible. -/
def initial (clipBox : Rect K) : GraphicsState K where
  matrix := .identity
  stroking := ⟨.gray, .black⟩
  filling := ⟨.gray, .black⟩
  text := .initial
  pendingClip? := none
  clipBox

def concat (state : GraphicsState K) (matrix : Matrix K) : GraphicsState K :=
  { state with matrix := matrix.concat state.matrix }

/-- What is left of a clip box behind a path with the given bounds. -/
def clipped (clipBox : Rect K) : Option (Rect K) → Rect K
  | none => clipBox
  | some bounds => (clipBox.intersection? bounds).getD .empty

/-- Clips, if that is pending, to the bounds of the path that ended. -/
def applyClip (state : GraphicsState K) (bounds? : Option (Rect K)) : GraphicsState K :=
  match state.pendingClip? with
  | none => state
  | some _ =>
    { state with pendingClip? := none, clipBox := clipped state.clipBox bounds? }

def ink (state : GraphicsState K) (paint : Paint) : Ink :=
  if paint.usesStrokingColor then state.stroking else state.filling

end GraphicsState

/-- The current state and the saved ones, the latest first. -/
structure GraphicsStack (K : Type) where
  current : GraphicsState K
  saved : List (GraphicsState K)

namespace GraphicsStack

variable {K : Type}

def ofState (state : GraphicsState K) : GraphicsStack K := ⟨state, []⟩

def depth (stack : GraphicsStack K) : Nat := stack.saved.length + 1

def modify (stack : GraphicsStack K) (change : GraphicsState K → GraphicsState K) :
    GraphicsStack K :=
  { stack with current := change stack.current }

def save (stack : GraphicsStack K) : GraphicsStack K :=
  { stack with saved := stack.current :: stack.saved }

/-- The stack with the state that was saved last; none when none is saved. -/
def restore? (stack : GraphicsStack K) : Option (GraphicsStack K) :=
  match stack.saved with
  | [] => none
  | state :: rest => some ⟨state, rest⟩

/-- Returns to the state that was saved last. When none is saved, nothing changes. -/
def restore (stack : GraphicsStack K) : GraphicsStack K := stack.restore?.getD stack

end GraphicsStack

end PdfElements
