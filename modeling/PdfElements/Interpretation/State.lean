import PdfElements.Content.Command
import PdfElements.Document
import PdfElements.Graphics.State
import PdfElements.Object.Place
import PdfElements.Options

/-!
The state of interpretation: what the operators of a stream read and change, what outlives the
stream, and how a stream within another one begins and ends.
-/

set_option autoImplicit false

namespace PdfElements

structure Setting where
  store : ObjectStore
  options : ExtractionOptions

/-- What the operators of the stream that runs find and change. -/
structure StreamState (K : Type) where
  graphics : GraphicsStack K
  path : Path K
  /-- The matrices of the open text object, if one is open. -/
  text? : Option (TextMatrices K)
  initialMatrix : Matrix K
  resources : Located Dictionary
  /-- The resources of the page, for forms that have none. -/
  pageResources : Located Dictionary
  inGlyph : Bool
  /-- The box that the glyph declared that is being drawn. -/
  glyphBox? : Option (Rect K)
  /-- Number of the page, counted from one; zero before the first page. -/
  page : Nat
  /-- How many forms and glyph procedures are around what runs. -/
  depth : Nat

/-- What is set aside while a nested stream runs. -/
structure OuterStream (K : Type) where
  graphics : GraphicsStack K
  path : Path K
  text? : Option (TextMatrices K)
  initialMatrix : Matrix K
  resources : Located Dictionary
  inGlyph : Bool
  glyphBox? : Option (Rect K)

/-- What a font is kept under: its number, or the place where it is held without one. -/
inductive FontKey where
  | number (id : ObjectId)
  | place (place : Place)
  deriving DecidableEq, Repr

abbrev FontCache (K : Type) := List (FontKey × Typeface K)

/-- The operator that is executed, if any, and its place in its stream. -/
structure Site where
  operator? : Option Operator
  index : Nat
  deriving DecidableEq, Repr

/-- The interpreter of content streams. One runs for all pages of a document. -/
structure Interpreter (K : Type) where
  state : StreamState K
  fonts : FontCache K
  rank : Nat
  site : Site
  events : Array (Event K)

variable {K : Type}

namespace StreamState

def initial [Scalar K] (page : Nat) (clipBox : Rect K)
    (resources : Located Dictionary) : StreamState K where
  graphics := .ofState (.initial clipBox)
  path := .empty
  text? := none
  initialMatrix := .identity
  resources
  pageResources := resources
  inGlyph := false
  glyphBox? := none
  page
  depth := 0

def current (state : StreamState K) : GraphicsState K := state.graphics.current

def modify (state : StreamState K) (change : GraphicsState K → GraphicsState K) : StreamState K :=
  { state with graphics := state.graphics.modify change }

def modifyText (state : StreamState K) (change : TextParameters K → TextParameters K) :
    StreamState K :=
  state.modify fun graphics => { graphics with text := change graphics.text }

def outer (state : StreamState K) : OuterStream K where
  graphics := state.graphics
  path := state.path
  text? := state.text?
  initialMatrix := state.initialMatrix
  resources := state.resources
  inGlyph := state.inGlyph
  glyphBox? := state.glyphBox?

/-- The state that a nested stream with the given resources begins with: nothing is saved, the
path is empty and no box is declared. An open text object stays open. -/
def enter (state : StreamState K) (resources : Located Dictionary) : StreamState K :=
  { state with
    graphics := .ofState state.current
    path := .empty
    resources
    glyphBox? := none
    depth := state.depth + 1 }

/-- The state behind a nested stream: what was set aside is back. -/
def leave (state : StreamState K) (outer : OuterStream K) : StreamState K :=
  { state with
    graphics := outer.graphics
    path := outer.path
    text? := outer.text?
    initialMatrix := outer.initialMatrix
    resources := outer.resources
    inGlyph := outer.inGlyph
    glyphBox? := outer.glyphBox?
    depth := state.depth - 1 }

end StreamState

namespace Interpreter

def start [Scalar K] : Interpreter K where
  state := .initial 0 .empty .nothing
  fonts := []
  rank := 0
  site := ⟨none, 0⟩
  events := #[]

def modify (interpreter : Interpreter K) (change : StreamState K → StreamState K) :
    Interpreter K :=
  { interpreter with state := change interpreter.state }

def moveTo (site : Site) (interpreter : Interpreter K) : Interpreter K := { interpreter with site }

def send (interpreter : Interpreter K) (event : Event K) : Interpreter K :=
  { interpreter with events := interpreter.events.push event }

/-- Goes no further than here, though what a run would do behind it can still be told. -/
def getStuck (interpreter : Interpreter K) : Interpreter K :=
  interpreter.send (.stuck interpreter.state.page)

/-- A warning with the page and the operator at which it arises, unless it names others. -/
def locate (interpreter : Interpreter K) (warning : Warning) : Warning :=
  let page := interpreter.state.page
  let site := interpreter.site
  let warning := { warning with page? := warning.page?.or (if 0 < page then some page else none) }
  match warning.operator?, site.operator? with
  | none, some operator =>
    { warning with operator? := some operator.name, index? := some site.index }
  | _, _ => warning

def warn (setting : Setting) (warning : Warning) (interpreter : Interpreter K) : Interpreter K :=
  if setting.options.collectWarnings then
    interpreter.send (.warning (interpreter.locate warning))
  else interpreter

variable [Scalar K]

def sendCharacter (setting : Setting) (text : String) (box : Rect K) (font : Font) (size : K)
    (interpreter : Interpreter K) : Interpreter K :=
  let places? := setting.options.places?
  let character : Character K :=
    { text, font
      page := interpreter.state.page
      rect := box.rounded places?
      size := Scalar.roundTo size places?
      color := interpreter.state.current.filling.color
      rank := interpreter.rank }
  { interpreter.send (.character character) with rank := interpreter.rank + 1 }

def sendShape (setting : Setting) (box : Rect K) (color : Color) (interpreter : Interpreter K) :
    Interpreter K :=
  interpreter.send
    (.shape ⟨interpreter.state.page, box.rounded setting.options.places?, color⟩)

def sendFigure (setting : Setting) (box : Rect K) (interpreter : Interpreter K) : Interpreter K :=
  interpreter.send (.figure ⟨interpreter.state.page, box.rounded setting.options.places?⟩)

end Interpreter

end PdfElements
