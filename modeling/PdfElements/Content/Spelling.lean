import PdfElements.Content.Byte
import PdfElements.Content.Fault
import PdfElements.Content.Operand

/-!
How white space, strings, names and numbers are spelled. Where a function reads from the start of
some bytes, it returns the bytes behind what it read too.
-/

set_option autoImplicit false

namespace PdfElements.Content

/-- The bytes behind white space and comments. A comment, which `inComment` says the bytes are in,
ends with its line. -/
def skip (inComment : Bool) : List UInt8 → List UInt8
  | [] => []
  | byte :: rest =>
    if inComment then skip (byte != 0x0A && byte != 0x0D) rest
    else if isBlank byte then skip false rest
    else if byte = 0x25 then skip true rest
    else byte :: rest

def skipBlanks (bytes : List UInt8) : List UInt8 := skip false bytes

/-- Where in a literal string the scanner is. -/
inductive LiteralMode where
  | plain
  | escaped
  /-- Behind a backslash and octal digits; so many more may follow. -/
  | octal (value more : Nat)
  /-- Behind a backslash and a carriage return, which a line feed may follow. -/
  | lineEnd
  deriving DecidableEq, Repr

/-- A literal string under way: how many parentheses are open in it and what was read, in
reverse. -/
structure Literal where
  mode : LiteralMode
  depth : Nat
  reversed : List UInt8
  deriving DecidableEq, Repr

namespace Literal

def push (literal : Literal) (byte : UInt8) : Literal :=
  { literal with mode := .plain, reversed := byte :: literal.reversed }

/-- Behind a byte that stands for itself or for a parenthesis or a backslash; none behind the
parenthesis that ends the string. -/
def plain (literal : Literal) (byte : UInt8) : Option Literal :=
  if byte = 0x28 then some { literal.push byte with depth := literal.depth + 1 }
  else if byte = 0x29 then
    if literal.depth = 0 then none
    else some { literal.push byte with depth := literal.depth - 1 }
  else if byte = 0x5C then some { literal with mode := .escaped }
  else some (literal.push byte)

/-- Behind a backslash and a byte. A line end behind a backslash means nothing, and a byte without
a meaning of its own stands for itself. -/
def escaped (literal : Literal) (byte : UInt8) : Literal :=
  if byte = 0x6E then literal.push 0x0A
  else if byte = 0x72 then literal.push 0x0D
  else if byte = 0x74 then literal.push 0x09
  else if byte = 0x62 then literal.push 0x08
  else if byte = 0x66 then literal.push 0x0C
  else if byte = 0x0D then { literal with mode := .lineEnd }
  else if byte = 0x0A then { literal with mode := .plain }
  else if isOctalDigit byte then { literal with mode := .octal (byte.toNat - 0x30) 2 }
  else literal.push byte

/-- Behind one more byte; none behind the parenthesis that ends the string. -/
def step (literal : Literal) (byte : UInt8) : Except (List UInt8) Literal :=
  let orEnd (literal : Literal) : Except (List UInt8) Literal :=
    match literal.plain byte with
    | some next => .ok next
    | none => .error literal.reversed.reverse
  match literal.mode with
  | .plain => orEnd literal
  | .escaped => .ok (literal.escaped byte)
  | .octal value more =>
    if 0 < more && isOctalDigit byte then
      .ok { literal with mode := .octal (value * 8 + (byte.toNat - 0x30)) (more - 1) }
    else orEnd (literal.push value.toUInt8)
  | .lineEnd =>
    if byte = 0x0A then .ok { literal with mode := .plain }
    else orEnd { literal with mode := .plain }

def scan (literal : Literal) : List UInt8 → Except LexFault (List UInt8 × List UInt8)
  | [] => .error .unterminatedLiteral
  | byte :: rest =>
    match literal.step byte with
    | .ok literal => literal.scan rest
    | .error value => .ok (value, rest)

end Literal

def literal (bytes : List UInt8) : Except LexFault (List UInt8 × List UInt8) :=
  Literal.scan ⟨.plain, 0, []⟩ bytes

/-- Bytes from pairs of digits; a last digit without a partner is a high one. -/
def pairDigits : List UInt8 → List UInt8
  | [] => []
  | [high] => [high <<< 4]
  | high :: low :: rest => (high <<< 4 ||| low) :: pairDigits rest

def hexadecimalFrom (reversed : List UInt8) :
    List UInt8 → Except LexFault (List UInt8 × List UInt8)
  | [] => .error .unterminatedHexadecimal
  | byte :: rest =>
    if byte = 0x3E then .ok (pairDigits reversed.reverse, rest)
    else if isBlank byte then hexadecimalFrom reversed rest
    else
      match hexValue? byte with
      | some digit => hexadecimalFrom (digit :: reversed) rest
      | none => .error (.invalidHexDigit byte)

/-- The bytes of a name: a number sign and two hexadecimal digits stand for one byte. -/
def decodeName : List UInt8 → List UInt8
  | [] => []
  | [byte] => [byte]
  | [first, second] => [first, second]
  | byte :: high :: low :: rest =>
    if byte = 0x23 then
      match hexValue? high, hexValue? low with
      | some highDigit, some lowDigit => (highDigit <<< 4 ||| lowDigit) :: decodeName rest
      | _, _ => byte :: decodeName (high :: low :: rest)
    else byte :: decodeName (high :: low :: rest)

def digitsValue (digits : List UInt8) : Nat :=
  digits.foldl (fun value digit => value * 10 + (digit.toNat - 0x30)) 0

variable {K : Type} [Scalar K]

def realOperand (negative : Bool) (digits : List UInt8) (places : Nat) : Operand K :=
  let magnitude : K := Scalar.ofDecimal (digitsValue digits) places
  .real (if negative then -magnitude else magnitude)

/-- A number without a point. Numbers beyond 63 bits are real. -/
def integerOperand (negative : Bool) (digits : List UInt8) : Operand K :=
  let magnitude := digitsValue digits
  if magnitude < Nat.pow 2 63 then .integer (if negative then -(magnitude : Int) else magnitude)
  else realOperand negative digits 0

def keywordOperand (word : String) : Operand K :=
  if word = "true" then .boolean true
  else if word = "false" then .boolean false
  else if word = "null" then .null
  else .name word

/-- Fuel that no operand within so many bytes can use up: at most two calls read each byte. -/
def operandFuel (bytes : Nat) : Nat := 2 * bytes + 2

end PdfElements.Content
