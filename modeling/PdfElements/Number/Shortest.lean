import PdfElements.Number.Binary

/-!
The shortest decimal that reads back as a given binary number. The numbers that round to a binary
number form an interval around it; of the decimals inside, those with the fewest digits are
considered, and of those the nearest is taken.
-/

set_option autoImplicit false

namespace PdfElements.Number

structure Decimal where
  digits : Nat
  exponent : Int
  deriving DecidableEq, Repr

inductive Tie where
  | even
  | up
  deriving DecidableEq, Repr

/-- The reals that round to one binary number, over a common denominator. The ends belong to the
interval when `closed`. -/
structure RoundingInterval where
  low : Nat
  value : Nat
  high : Nat
  denominator : Nat
  closed : Bool
  deriving Repr

namespace RoundingInterval

/-- The interval around `significand · 2 ^ exponent`. It is half as wide below a power of two,
where the numbers of the format lie twice as dense, unless the format has no denser numbers. -/
def around (format : BinaryFormat) (significand : Nat) (exponent : Int) : RoundingInterval :=
  let dense := significand = Nat.pow 2 format.fractionBits && format.leastExponent < exponent
  let scale := exponent - 2
  let factor := Nat.pow 2 scale.toNat
  { low := (4 * significand - if dense then 1 else 2) * factor
    value := 4 * significand * factor
    high := (4 * significand + 2) * factor
    denominator := Nat.pow 2 (-scale).toNat
    closed := significand % 2 = 0 }

def holds (interval : RoundingInterval) (numerator : Nat) : Bool :=
  if interval.closed then interval.low ≤ numerator && numerator ≤ interval.high
  else interval.low < numerator && numerator < interval.high

def leadingPlace (interval : RoundingInterval) : Int :=
  let count (number : Nat) : Nat := (Nat.toDigits 10 number).length
  if interval.denominator ≤ interval.value then
    (count (interval.value / interval.denominator) : Int) - 1
  else
    let places := count (interval.denominator / interval.value) - 1
    if interval.denominator ≤ interval.value * Nat.pow 10 places then -(places : Int)
    else -(places : Int) - 1

/-- Of the value's two neighbours among the multiples of `10 ^ place`, the one that reads back and
is the nearer. -/
def onGrid? (interval : RoundingInterval) (tie : Tie) (place : Int) : Option Decimal :=
  let up := Nat.pow 10 (-place).toNat
  let unit := Nat.pow 10 place.toNat * interval.denominator
  let below := interval.value * up / unit
  let scaled : RoundingInterval :=
    { interval with
      low := interval.low * up, value := interval.value * up, high := interval.high * up }
  let above := below + 1
  match scaled.holds (below * unit) && 0 < below, scaled.holds (above * unit) with
  | false, false => none
  | true, false => some ⟨below, place⟩
  | false, true => some ⟨above, place⟩
  | true, true =>
    let toBelow := scaled.value - below * unit
    let toAbove := above * unit - scaled.value
    let upward := match tie with
      | .even => toAbove < toBelow || (toAbove = toBelow && below % 2 = 1)
      | .up => toAbove ≤ toBelow
    some ⟨if upward then above else below, place⟩

def firstOnGrid (interval : RoundingInterval) (tie : Tie) : Nat → Int → Decimal
  | 0, place =>
    let unit := interval.denominator * Nat.pow 10 place.toNat
    ⟨interval.value * Nat.pow 10 (-place).toNat / unit, place⟩
  | grids + 1, place =>
    match interval.onGrid? tie place with
    | some decimal => decimal
    | none => firstOnGrid interval tie grids (place - 1)

end RoundingInterval

/-- The same number without a zero as its last digit. Only a digit that was rounded up to ten
leaves one. -/
def Decimal.shortened (decimal : Decimal) : Decimal :=
  if decimal.digits % 10 = 0 then ⟨decimal.digits / 10, decimal.exponent + 1⟩ else decimal

/-- The shortest decimal that a format reads back as `significand · 2 ^ exponent`. Seventeen digits
always suffice. -/
def shortestDecimal (format : BinaryFormat) (tie : Tie) (significand : Nat) (exponent : Int) :
    Decimal :=
  if significand = 0 then ⟨0, 0⟩
  else
    let interval := RoundingInterval.around format significand exponent
    (interval.firstOnGrid tie 17 interval.leadingPlace).shortened

end PdfElements.Number
