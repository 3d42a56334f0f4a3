import PdfElements.Number.Shortest

/-!
Written forms of floating-point numbers. All use the shortest digits that read back; a style says
when they are written with an exponent, whether an integral number keeps a fraction, and how the
values that are no numbers are spelled.
-/

set_option autoImplicit false

namespace PdfElements.Number

/-- The choices that a written form makes. -/
structure Style where
  /-- Leading places from here on upward are written with an exponent. -/
  exponentFrom : Option Int
  exponentBelow : Option Int
  fraction : Bool
  plus : Bool
  tie : Tie
  nan : String
  infinity : String
  negativeInfinity : String

namespace Style

/-- The style of numbers in XML text: never an exponent, no needless fraction. -/
def plain : Style :=
  { exponentFrom := none, exponentBelow := none, fraction := false, plus := false, tie := .up
    nan := "NaN", infinity := "inf", negativeInfinity := "-inf" }

/-- The style of numbers quoted in diagnostics: always recognisable as not an integer. -/
def diagnostic : Style :=
  { exponentFrom := some 16, exponentBelow := some (-4), fraction := true, plus := false, tie := .up
    nan := "NaN", infinity := "inf", negativeInfinity := "-inf" }

/-- The style of numbers in JSON text, which has no spelling for what is not a number. -/
def json : Style :=
  { exponentFrom := some 16, exponentBelow := some (-5), fraction := true, plus := true, tie := .even
    nan := "null", infinity := "null", negativeInfinity := "null" }

/-- Digits with a point after the first one, and the exponent of that place. -/
def scientific (style : Style) (digits : List Char) (leading : Int) : String :=
  let mantissa := match digits with
    | [] => "0"
    | [digit] => String.ofList [digit]
    | digit :: rest => String.ofList (digit :: '.' :: rest)
  let sign := if style.plus && 0 ≤ leading then "+" else ""
  mantissa ++ "e" ++ sign ++ toString leading

def positional (style : Style) (digits : List Char) (exponent : Int) : String :=
  if 0 ≤ exponent then
    String.ofList (digits ++ List.replicate exponent.toNat '0') ++ if style.fraction then ".0" else ""
  else
    let places := (-exponent).toNat
    let padded := List.replicate (places + 1 - digits.length) '0' ++ digits
    let whole := padded.length - places
    String.ofList (padded.take whole) ++ "." ++ String.ofList (padded.drop whole)

def decimal (style : Style) (value : Decimal) : String :=
  let digits := Nat.toDigits 10 value.digits
  let leading := value.exponent + digits.length - 1
  let withExponent :=
    value.digits != 0 &&
      ((match style.exponentFrom with | some place => place ≤ leading | none => false) ||
        (match style.exponentBelow with | some place => leading < place | none => false))
  if withExponent then style.scientific digits leading else style.positional digits value.exponent

def binary (style : Style) (format : BinaryFormat) (number : Binary) : String :=
  (if number.negative then "-" else "") ++
    style.decimal (shortestDecimal format style.tie number.significand number.exponent)

def float (style : Style) (value : Float) : String :=
  match Binary.ofFloat? value with
  | some number => style.binary .double number
  | none =>
    if value.isNaN then style.nan
    else if value < 0.0 then style.negativeInfinity else style.infinity

def single (style : Style) (value : Float32) : String :=
  match Binary.ofSingle? value with
  | some number => style.binary .single number
  | none =>
    if value.isNaN then style.nan
    else if value < 0.0 then style.negativeInfinity else style.infinity

end Style

end PdfElements.Number
