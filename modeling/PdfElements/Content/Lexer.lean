import PdfElements.Content.Spelling
import PdfElements.Text.Utf8

/-!
Splitting a content stream into tokens. A lexer goes through its input by a position. It looks at
the bytes there, and goes on from wherever it stood when something was wrong.
-/

set_option autoImplicit false

namespace PdfElements.Content

/-- A lexer: its input, how many bytes of it are behind the lexer, how many containers it is in, and
whether it failed. -/
structure Lexer where
  input : Array UInt8
  position : Nat
  depth : Nat
  failed : Bool
  deriving DecidableEq, Repr

/-- A scanner moves a lexer, also if it fails. -/
abbrev Scan := ExceptT LexFault (StateM Lexer)

namespace Lexer

def start (input : List UInt8) : Lexer := ⟨input.toArray, 0, 0, false⟩

def remaining (lexer : Lexer) : Nat := lexer.input.size - lexer.position

def peekAt (offset : Nat) : Scan (Option UInt8) := do
  let lexer ← get
  return lexer.input[lexer.position + offset]?

def peek : Scan (Option UInt8) := peekAt 0

def advance (count : Nat) : Scan Unit :=
  modify fun lexer => { lexer with position := lexer.position + count }

/-- The byte at an index, which has to be one of the bytes. -/
def byteAt (bytes : Array UInt8) (index : Nat) : Scan UInt8 :=
  match bytes[index]? with
  | some byte => return byte
  | none => throw (.outOfBounds index bytes.size)

/-- The bytes of the input between two positions, which have to be positions in it. -/
def slice (start stop : Nat) : Scan (Array UInt8) := do
  let input := (← get).input
  if stop < start then throw (.outOfBounds start stop)
  else if input.size < stop then throw (.outOfBounds stop input.size)
  else return input.extract start stop

def passWhile (accepts : UInt8 → Bool) : (fuel : Nat) → Scan Unit
  | 0 => return
  | fuel + 1 => do
    if (← peek).any accepts then
      advance 1
      passWhile accepts fuel

def takeWhile (accepts : UInt8 → Bool) : Scan (Array UInt8) := do
  let start := (← get).position
  passWhile accepts (← get).remaining
  slice start (← get).position

def isInLine (byte : UInt8) : Bool := byte != 0x0A && byte != 0x0D

/-- Moves behind white space and comments. A comment ends with its line. -/
def passBlanks : (fuel : Nat) → Scan Unit
  | 0 => return
  | fuel + 1 => do
    match ← peek with
    | none => return
    | some byte =>
      if isBlank byte then
        advance 1
        passBlanks fuel
      else if byte = 0x25 then
        passWhile isInLine (← get).remaining
        passBlanks fuel

def skipBlanks : Scan Unit := do passBlanks (← get).remaining

/-- The value of the rest of a literal string. -/
def literalFrom : (fuel : Nat) → Literal → Scan (List UInt8)
  | 0, _ => throw .unterminatedLiteral
  | fuel + 1, literal => do
    match ← peek with
    | none => throw .unterminatedLiteral
    | some byte =>
      advance 1
      match literal.step byte with
      | .ok literal => literalFrom fuel literal
      | .error value => return value

def literal : Scan (List UInt8) := do
  advance 1
  literalFrom (← get).remaining ⟨.plain, 0, []⟩

/-- The digits of a hexadecimal string up to its end, behind the digits read in reverse. -/
def digitsFrom : (fuel : Nat) → (reversed : List UInt8) → Scan (List UInt8)
  | 0, _ => throw .unterminatedHexadecimal
  | fuel + 1, reversed => do
    match ← peek with
    | none => throw .unterminatedHexadecimal
    | some byte =>
      advance 1
      if byte = 0x3E then return reversed.reverse
      else if isBlank byte then digitsFrom fuel reversed
      else
        match hexValue? byte with
        | some digit => digitsFrom fuel (digit :: reversed)
        | none => throw (.invalidHexDigit byte)

def bytesOfPairs : List UInt8 → Scan (List UInt8)
  | [] => return []
  | [_] => throw (.outOfBounds 1 1)
  | high :: low :: rest => do return (high <<< 4 ||| low) :: (← bytesOfPairs rest)

/-- The value of a hexadecimal string that begins at the position. A last digit without a partner
is a high one. -/
def hexadecimal : Scan (List UInt8) := do
  advance 1
  let digits ← digitsFrom (← get).remaining []
  bytesOfPairs (if digits.length % 2 = 0 then digits else digits ++ [0])

/-- The bytes that those of a name stand for, from an index on and behind those read in reverse: a
number sign and two hexadecimal digits stand for one byte. -/
def nameFrom (raw : Array UInt8) : (fuel index : Nat) → (reversed : List UInt8) → Scan (List UInt8)
  | 0, _, reversed => return reversed.reverse
  | fuel + 1, index, reversed => do
    if raw.size ≤ index then return reversed.reverse
    let byte ← byteAt raw index
    if byte = 0x23 && index + 2 < raw.size then
      match hexValue? (← byteAt raw (index + 1)), hexValue? (← byteAt raw (index + 2)) with
      | some high, some low => nameFrom raw fuel (index + 3) ((high <<< 4 ||| low) :: reversed)
      | _, _ => nameFrom raw fuel (index + 1) (byte :: reversed)
    else nameFrom raw fuel (index + 1) (byte :: reversed)

def name : Scan String := do
  advance 1
  let raw ← takeWhile isRegular
  return Text.decodeUtf8 (← nameFrom raw raw.size 0 [])

def keyword : Scan String := do return Text.decodeUtf8 (← takeWhile isRegular).toList

variable {K : Type} [Scalar K]

/-- Moves behind digits and at most one point, and tells whether there was one. -/
def passDigits : (fuel : Nat) → (pointed : Bool) → Scan Bool
  | 0, pointed => return pointed
  | fuel + 1, pointed => do
    match ← peek with
    | none => return pointed
    | some byte =>
      if byte = 0x2E && !pointed then
        advance 1
        passDigits fuel true
      else if isDigit byte then
        advance 1
        passDigits fuel pointed
      else return pointed

/-- What the text of a number stands for. The first of several signs counts, and signs and a point
alone are zero. -/
def numeralOperand (text : List UInt8) (pointed : Bool) : Operand K :=
  let negative := text.head? == some 0x2D
  let unsigned := text.dropWhile isSign
  if unsigned = [] || unsigned = [0x2E] then .integer 0
  else if pointed then
    let whole := unsigned.takeWhile isDigit
    let fraction := unsigned.drop (whole.length + 1)
    realOperand negative (whole ++ fraction) fraction.length
  else integerOperand negative unsigned

def number : Scan (Operand K) := do
  let start := (← get).position
  passWhile isSign (← get).remaining
  let pointed ← passDigits (← get).remaining false
  let text ← slice start (← get).position
  return numeralOperand text.toList pointed

/-- A scanner that runs one container further in, unless there are too many around it. -/
def nested {α : Type} (scan : Scan α) : Scan α := fun lexer =>
  if nestingLimit ≤ lexer.depth then (.error (.tooDeep lexer.position), lexer)
  else
    let (result, lexer) := scan { lexer with depth := lexer.depth + 1 }
    (result, { lexer with depth := lexer.depth - 1 })

mutual

def operand : (fuel : Nat) → Scan (Operand K)
  | 0 => throw .unexpectedEnd
  | fuel + 1 => do
    match ← peek with
    | none => throw .unexpectedEnd
    | some byte =>
      if byte = 0x28 then return .literal (← literal)
      else if byte = 0x3C then
        if (← peekAt 1) = some 0x3C then
          nested do
            advance 2
            return .dictionary (← entriesFrom fuel [])
        else return .hexadecimal (← hexadecimal)
      else if byte = 0x5B then
        advance 1
        nested do return .array (← itemsFrom fuel [])
      else if byte = 0x2F then return .name (← name)
      else if beginsNumber byte then number
      else if isRegular byte then return keywordOperand (← keyword)
      else throw (.unexpectedByte byte (← get).position)

def itemsFrom : (fuel : Nat) → (reversed : List (Operand K)) → Scan (List (Operand K))
  | 0, _ => throw .unexpectedEnd
  | fuel + 1, reversed => do
    skipBlanks
    match ← peek with
    | none => throw .unterminatedArray
    | some byte =>
      if byte = 0x5D then
        advance 1
        return reversed.reverse
      else
        let item ← operand fuel
        itemsFrom fuel (item :: reversed)

def entriesFrom : (fuel : Nat) → (reversed : List (String × Operand K)) →
    Scan (List (String × Operand K))
  | 0, _ => throw .unexpectedEnd
  | fuel + 1, reversed => do
    skipBlanks
    match ← peek with
    | none => throw .unterminatedDictionary
    | some byte =>
      if byte = 0x3E && (← peekAt 1) = some 0x3E then
        advance 2
        return reversed.reverse
      else if byte = 0x2F then
        let key ← name
        skipBlanks
        let value ← operand fuel
        entriesFrom fuel ((key, value) :: reversed)
      else throw .keyExpected

end

/-- The entries of an inline image up to its data, behind the entries read in reverse. One byte of
white space separates the data. -/
def imageEntriesFrom : (fuel : Nat) → (reversed : List (String × Operand K)) →
    Scan (List (String × Operand K))
  | 0, _ => throw .unexpectedEnd
  | fuel + 1, reversed => do
    skipBlanks
    match ← peek with
    | none => throw .imageDataMissing
    | some byte =>
      if byte = 0x49 && (← peekAt 1) = some 0x44 && !(← peekAt 2).any isRegular then
        advance 2
        if (← peek).any isBlank then advance 1
        return reversed.reverse
      else if byte = 0x2F then
        let key ← name
        skipBlanks
        let value ← operand (operandFuel fuel)
        imageEntriesFrom fuel ((key, value) :: reversed)
      else throw .imageKeyExpected

def isBlankBefore (index : Nat) : Scan Bool := do
  return isBlank (← byteAt (← get).input (index - 1))

/-- Whether a word may start at an index of data that begin at another one. -/
def startsWordAt (start index : Nat) : Scan Bool :=
  if index = start then return true else isBlankBefore index

/-- Whether the word that ends the data of an inline image stands at an index. -/
def endsDataAt (start index : Nat) : Scan Bool := do
  let input := (← get).input
  let preceded ← startsWordAt start index
  let followed := !input[index + 2]?.any isRegular
  return preceded && followed && (← byteAt input index) = 0x45 &&
    (← byteAt input (index + 1)) = 0x49

/-- Where data end that a word behind them ends: one byte of white space separates the two. -/
def dataStop (start index : Nat) : Scan Nat :=
  if start < index then do
    if ← isBlankBefore index then return index - 1 else return index
  else return index

/-- The data of an inline image that begin at one index, up to the word that ends them, which does
not stand before another index. -/
def imageDataFrom (start : Nat) : (fuel index : Nat) → Scan (List UInt8)
  | 0, _ => throw .imageEndMissing
  | fuel + 1, index => do
    if (← get).input.size ≤ index + 1 then throw .imageEndMissing
    else if ← endsDataAt start index then
      let stop ← dataStop start index
      modify fun lexer => { lexer with position := index + 2 }
      return (← slice start stop).toList
    else imageDataFrom start fuel (index + 1)

def inlineImage (fuel : Nat) : Scan (InlineImage K) := do
  let entries ← imageEntriesFrom fuel []
  let start := (← get).position
  return ⟨entries, ← imageDataFrom start (← get).remaining start⟩

/-- The token that begins with a regular byte that begins no number. -/
def keywordToken (fuel : Nat) : Scan (Token K) := do
  let word ← keyword
  if word = "true" then return .operand (.boolean true)
  else if word = "false" then return .operand (.boolean false)
  else if word = "null" then return .operand .null
  else if word = "BI" then return .image (← inlineImage fuel)
  else return .operator word

/-- The next token; none at the end. Closing brackets without a partner mean nothing. The fuel is
more than the number of bytes that are left. -/
def nextToken : (fuel : Nat) → Scan (Option (Token K))
  | 0 => return none
  | fuel + 1 => do
    skipBlanks
    match ← peek with
    | none => return none
    | some byte =>
      if isStray byte then
        advance 1
        nextToken fuel
      else if byte = 0x3E && (← peekAt 1) = some 0x3E then
        advance 2
        nextToken fuel
      else if opensOperand byte then
        return some (.operand (← operand (operandFuel fuel)))
      else if isRegular byte then return some (← keywordToken (fuel + 1))
      else
        advance 1
        nextToken fuel

/-- The answer to one call, and the lexer behind it. A lexer that failed has no more tokens. -/
def next (K : Type) [Scalar K] (lexer : Lexer) : Option (Except LexFault (Token K)) × Lexer :=
  if lexer.failed then (none, lexer)
  else
    match nextToken (lexer.remaining + 1) lexer with
    | (.ok token?, lexer) => (token?.map .ok, lexer)
    | (.error fault, lexer) => (some (.error fault), { lexer with failed := true })

end Lexer

/-- The tokens of a content stream up to its end or to what is no token. -/
structure Lexed (K : Type) where
  tokens : Array (Token K)
  fault? : Option LexFault

variable {K : Type} [Scalar K]

/-- What a lexer answers until it has no more, behind the tokens already read. The fuel is more than
the number of bytes that are left. -/
def Lexer.lexedFrom : (fuel : Nat) → Array (Token K) → Lexer → Lexed K
  | 0, tokens, _ => ⟨tokens, none⟩
  | fuel + 1, tokens, lexer =>
    match lexer.next K with
    | (none, _) => ⟨tokens, none⟩
    | (some (.error fault), _) => ⟨tokens, some fault⟩
    | (some (.ok token), lexer) => lexer.lexedFrom fuel (tokens.push token)

def tokens (bytes : List UInt8) : Lexed K := (Lexer.start bytes).lexedFrom (bytes.length + 1) #[]

end PdfElements.Content
