import PdfElements.Number.Style

/-!
The numbers that geometry is computed with. Everything that measures a page is written once, over
any type with these operations; running programs take double precision, and reasoning may take an
exact type.
-/

set_option autoImplicit false

namespace PdfElements

/-- Arithmetic and order, conversions from what documents hold, and the conversions back that
interpretation needs. No law is assumed. -/
class Scalar (K : Type) extends Add K, Sub K, Mul K, Div K, Neg K, LT K, LE K, BEq K where
  [decidableLT : DecidableLT K]
  [decidableLE : DecidableLE K]
  /-- The value nearest to an integer. -/
  ofInt : Int → K
  /-- The value nearest to `digits · 10 ^ (-places)`. -/
  ofDecimal : (digits places : Nat) → K
  ofSingle : Float32 → K
  infinity : K
  magnitude : K → K
  squareRoot : K → K
  /-- The nearest integer, a half away from zero. -/
  roundToInteger : K → K
  /-- The integer part, cut off toward zero and limited to 64 bits. -/
  truncate : K → Int
  /-- The nearest single-precision number. -/
  toSingle : K → Float32
  plainText : K → String
  /-- The value as diagnostics quote it, recognisable as not an integer. -/
  diagnosticText : K → String
  jsonText : K → String

attribute [reducible, instance] Scalar.decidableLT Scalar.decidableLE

instance : Scalar Float where
  ofInt := Float.ofInt
  ofDecimal digits places := Float.ofScientific digits true places
  ofSingle := Number.widen
  infinity := 1.0 / 0.0
  magnitude := Float.abs
  squareRoot := Float.sqrt
  roundToInteger := Number.roundToInteger
  truncate := Number.truncateToInt64
  toSingle := Number.narrow
  plainText := Number.Style.plain.float
  diagnosticText := Number.Style.diagnostic.float
  jsonText := Number.Style.json.float

namespace Scalar

variable {K : Type} [Scalar K]

/-- Whether a value is a number at all: what is not a number differs from itself. -/
def isNumber (value : K) : Bool := value == value

def lesser (first second : K) : K :=
  if isNumber first then if second < first then second else first else second

def greater (first second : K) : K :=
  if isNumber first then if first < second then second else first else second

def toCode (value : K) : Nat :=
  (Number.clamp 0 (Nat.pow 2 32 - 1) (truncate value)).toNat

/-- The value `number / 1000`: glyph metrics are given in thousandths. -/
def thousandth (value : K) : K := value / ofInt 1000

/-- Rounds to `places?` decimal places, of which at most fifteen count; without a precision the
value stays as it is. -/
def roundTo (value : K) : Option Nat → K
  | none => value
  | some places =>
    let factor : K := ofInt (Nat.pow 10 (min places 15))
    roundToInteger (value * factor) / factor

end Scalar

end PdfElements
