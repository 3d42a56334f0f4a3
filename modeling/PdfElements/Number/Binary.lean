/-!
Finite binary floating-point numbers as integers times powers of two, rounding to the nearest
number of a binary format, and the exact conversions between double and single precision that
are built from them.
-/

set_option autoImplicit false

namespace PdfElements.Number

/-- A number of the form `significand · 2 ^ exponent`, with its sign kept apart so that the two
zeros stay distinct. -/
structure Binary where
  negative : Bool
  significand : Nat
  exponent : Int
  deriving DecidableEq, Repr

/-- The layout of an interchange format: how many bits the fraction has and how many the
exponent has. -/
structure BinaryFormat where
  fractionBits : Nat
  exponentBits : Nat
  deriving DecidableEq, Repr

namespace BinaryFormat

def double : BinaryFormat := ⟨52, 11⟩

def single : BinaryFormat := ⟨23, 8⟩

def topField (format : BinaryFormat) : Nat := Nat.pow 2 format.exponentBits - 1

def leastExponent (format : BinaryFormat) : Int :=
  2 - ((Nat.pow 2 (format.exponentBits - 1) : Nat) : Int) - format.fractionBits

/-- The number that a bit pattern stands for; none for infinities and NaNs. -/
def ofBits? (format : BinaryFormat) (bits : Nat) : Option Binary :=
  let fraction := bits % Nat.pow 2 format.fractionBits
  let field := bits / Nat.pow 2 format.fractionBits % Nat.pow 2 format.exponentBits
  let negative := bits / Nat.pow 2 (format.fractionBits + format.exponentBits) % 2 == 1
  if field = format.topField then none
  else if field = 0 then some ⟨negative, fraction, format.leastExponent⟩
  else some ⟨negative, Nat.pow 2 format.fractionBits + fraction, format.leastExponent + (field - 1)⟩

/-- The quotient by `2 ^ shift`, rounded to the nearest integer, a half to the even one. -/
def shiftToNearest (value shift : Nat) : Nat :=
  let quotient := value / Nat.pow 2 shift
  let twice := 2 * (value % Nat.pow 2 shift)
  if twice > Nat.pow 2 shift || (twice == Nat.pow 2 shift && quotient % 2 == 1) then quotient + 1
  else quotient

/-- The bit pattern of the format's number nearest to `number`; beyond the largest number, the
pattern of an infinity. Patterns of successive numbers are successive, so a significand that
rounds up to the next power of two carries into the exponent field. -/
def toBits (format : BinaryFormat) (number : Binary) : Nat :=
  let sign := if number.negative then Nat.pow 2 (format.fractionBits + format.exponentBits) else 0
  if number.significand = 0 then sign
  else
    let length := number.significand.log2 + 1
    let exponent := max (number.exponent + length - (format.fractionBits + 1 : Nat))
      format.leastExponent
    let shift := exponent - number.exponent
    let rounded :=
      if shift ≤ 0 then number.significand * Nat.pow 2 (-shift).toNat
      else shiftToNearest number.significand shift.toNat
    let field := (exponent - format.leastExponent).toNat
    let magnitude := field * Nat.pow 2 format.fractionBits + rounded
    sign + min magnitude (format.topField * Nat.pow 2 format.fractionBits)

end BinaryFormat

def Binary.ofFloat? (value : Float) : Option Binary :=
  BinaryFormat.double.ofBits? value.toBits.toNat

def Binary.ofSingle? (value : Float32) : Option Binary :=
  BinaryFormat.single.ofBits? value.toBits.toNat

def Binary.toFloat (number : Binary) : Float :=
  Float.ofBits (BinaryFormat.double.toBits number).toUInt64

def Binary.toSingle (number : Binary) : Float32 :=
  Float32.ofBits (BinaryFormat.single.toBits number).toUInt32

def singleOfInt (value : Int) : Float32 := Binary.toSingle ⟨value < 0, value.natAbs, 0⟩

def Binary.truncate (number : Binary) : Int :=
  let magnitude :=
    if number.exponent < 0 then number.significand / Nat.pow 2 (-number.exponent).toNat
    else number.significand * Nat.pow 2 number.exponent.toNat
  if number.negative then -(magnitude : Int) else magnitude

def narrow (value : Float) : Float32 :=
  match Binary.ofFloat? value with
  | some number => number.toSingle
  | none =>
    if value.isNaN then 0.0 / 0.0 else if value < 0.0 then -1.0 / 0.0 else 1.0 / 0.0

def widen (value : Float32) : Float :=
  match Binary.ofSingle? value with
  | some number => number.toFloat
  | none =>
    if value.isNaN then 0.0 / 0.0 else if value < 0.0 then -1.0 / 0.0 else 1.0 / 0.0

/-- Whether a bound below or above cuts an integer off, and what is left. -/
def clamp (least greatest value : Int) : Int := max least (min greatest value)

/-- The integer part of a double within 64 bits; values beyond take the nearest bound and NaN
takes zero. -/
def truncateToInt64 (value : Float) : Int :=
  match Binary.ofFloat? value with
  | some number => clamp (-(Nat.pow 2 63)) (Nat.pow 2 63 - 1) number.truncate
  | none => if value.isNaN then 0 else if value < 0.0 then -(Nat.pow 2 63) else Nat.pow 2 63 - 1

/-- Rounds to the nearest integer, a half away from zero. The sign survives, also on zero. -/
def Binary.roundAway (number : Binary) : Binary :=
  if number.exponent < 0 then
    let shift := (-number.exponent).toNat
    { number with
      significand := (2 * number.significand + Nat.pow 2 shift) / Nat.pow 2 (shift + 1)
      exponent := 0 }
  else number

def roundToInteger (value : Float) : Float :=
  match Binary.ofFloat? value with
  | some number => number.roundAway.toFloat
  | none => value

def roundSingleToInteger (value : Float32) : Float32 :=
  match Binary.ofSingle? value with
  | some number => number.roundAway.toSingle
  | none => value

end PdfElements.Number
