import PdfElements.Font.Typeface

/-!
Text state: the parameters that every string is shown with, and the matrices that say where the
next glyph goes.
-/

set_option autoImplicit false

namespace PdfElements

/-- How glyphs are painted. All modes yield characters. -/
inductive TextMode where
  | fill
  | stroke
  | fillStroke
  | invisible
  | fillClip
  | strokeClip
  | fillStrokeClip
  | clip
  deriving DecidableEq, Repr

namespace TextMode

/-- The modes in the order of their numbers. -/
def all : List TextMode :=
  [fill, stroke, fillStroke, invisible, fillClip, strokeClip, fillStrokeClip, clip]

def ofNumber? (number : Int) : Option TextMode :=
  if number < 0 then none else all[number.toNat]?

end TextMode

structure TextParameters (K : Type) where
  characterSpacing : K
  wordSpacing : K
  horizontalScaling : K
  leading : K
  rise : K
  /-- The selected font; none when none is selected or the selected one cannot be used. -/
  typeface? : Option (Typeface K)
  /-- What the selected font is called, whether it can be used or not. -/
  fontName? : Option String
  fontSize : K

namespace TextParameters

variable {K : Type} [Scalar K]

def initial : TextParameters K where
  characterSpacing := Scalar.ofInt 0
  wordSpacing := Scalar.ofInt 0
  horizontalScaling := Scalar.ofInt 100
  leading := Scalar.ofInt 0
  rise := Scalar.ofInt 0
  typeface? := none
  fontName? := none
  fontSize := Scalar.ofInt 0

def horizontalFactor (parameters : TextParameters K) : K :=
  parameters.horizontalScaling / Scalar.ofInt 100

/-- From the space of glyphs to text space. -/
def fontMatrix (parameters : TextParameters K) : Matrix K :=
  ⟨parameters.fontSize * parameters.horizontalFactor, Scalar.ofInt 0, Scalar.ofInt 0,
    parameters.fontSize, Scalar.ofInt 0, parameters.rise⟩

/-- How far the pen moves after a glyph, in text space. -/
def advance (parameters : TextParameters K) (glyph : Glyph K) : K :=
  let spaced := glyph.width * parameters.fontSize + parameters.characterSpacing
  let spaced := if glyph.isSpace then spaced + parameters.wordSpacing else spaced
  spaced * parameters.horizontalFactor

/-- How far the pen moves for an adjustment, given in thousandths against the direction of
text. -/
def adjustment (parameters : TextParameters K) (amount : K) : K :=
  Scalar.thousandth (-amount) * parameters.fontSize * parameters.horizontalFactor

end TextParameters

/-- Where the next glyph goes and where its line began. -/
structure TextMatrices (K : Type) where
  text : Matrix K
  line : Matrix K
  deriving DecidableEq, Repr

namespace TextMatrices

variable {K : Type}

def ofMatrix (matrix : Matrix K) : TextMatrices K := ⟨matrix, matrix⟩

variable [Scalar K]

def initial : TextMatrices K := ofMatrix .identity

def moveLine (matrices : TextMatrices K) (x y : K) : TextMatrices K :=
  ofMatrix ((Matrix.translation x y).concat matrices.line)

def nextLine (matrices : TextMatrices K) (leading : K) : TextMatrices K :=
  matrices.moveLine (Scalar.ofInt 0) (-leading)

def advance (matrices : TextMatrices K) (distance : K) : TextMatrices K :=
  { matrices with
    text := (Matrix.translation distance (Scalar.ofInt 0)).concat matrices.text }

end TextMatrices

end PdfElements
