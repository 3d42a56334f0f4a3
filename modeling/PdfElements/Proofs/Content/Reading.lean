import PdfElements.Content.Lexer

/-!
What a lexer reads, told by the bytes that are left. Every function takes these bytes and returns
what is read from them with the bytes behind it.
-/

set_option autoImplicit false

namespace PdfElements.Content

def name (bytes : List UInt8) : String × List UInt8 :=
  (Text.decodeUtf8 (decodeName (bytes.takeWhile isRegular)), bytes.dropWhile isRegular)

def keyword (bytes : List UInt8) : String × List UInt8 :=
  (Text.decodeUtf8 (bytes.takeWhile isRegular), bytes.dropWhile isRegular)

variable {K : Type} [Scalar K]

/-- The number at the start of the bytes. The first of several signs counts, and signs and a point
alone are zero. -/
def number (bytes : List UInt8) : Operand K × List UInt8 :=
  let negative := bytes.head? == some 0x2D
  let unsigned := bytes.dropWhile isSign
  let whole := unsigned.takeWhile isDigit
  match unsigned.dropWhile isDigit with
  | 0x2E :: behind =>
    let fraction := behind.takeWhile isDigit
    let digits := whole ++ fraction
    (if digits.isEmpty then .integer 0 else realOperand negative digits fraction.length,
      behind.dropWhile isDigit)
  | rest => (if whole.isEmpty then .integer 0 else integerOperand negative whole, rest)

mutual

/-- The operand at the start of the bytes, within a stream of `size` bytes and with room for
`levels` more containers inside each other. -/
def operand (size : Nat) : (fuel levels : Nat) → List UInt8 →
    Except LexFault (Operand K × List UInt8)
  | 0, _, _ => .error .unexpectedEnd
  | _ + 1, _, [] => .error .unexpectedEnd
  | fuel + 1, levels, byte :: rest =>
    if byte = 0x28 then do
      let (value, rest) ← literal rest
      return (.literal value, rest)
    else if byte = 0x3C then
      match rest with
      | 0x3C :: behind =>
        match levels with
        | 0 => .error (.tooDeep (size - (byte :: rest).length))
        | levels + 1 => do
          let (entries, rest) ← entriesFrom size fuel levels [] behind
          return (.dictionary entries, rest)
      | _ => do
        let (value, rest) ← hexadecimalFrom [] rest
        return (.hexadecimal value, rest)
    else if byte = 0x5B then
      match levels with
      | 0 => .error (.tooDeep (size - rest.length))
      | levels + 1 => do
        let (items, rest) ← itemsFrom size fuel levels [] rest
        return (.array items, rest)
    else if byte = 0x2F then
      let (value, rest) := name rest
      .ok (.name value, rest)
    else if beginsNumber byte then .ok (number (byte :: rest))
    else if isRegular byte then
      let (word, rest) := keyword (byte :: rest)
      .ok (keywordOperand word, rest)
    else .error (.unexpectedByte byte (size - (byte :: rest).length))

def itemsFrom (size : Nat) : (fuel levels : Nat) → (reversed : List (Operand K)) → List UInt8 →
    Except LexFault (List (Operand K) × List UInt8)
  | 0, _, _, _ => .error .unexpectedEnd
  | fuel + 1, levels, reversed, bytes =>
    match skipBlanks bytes with
    | [] => .error .unterminatedArray
    | 0x5D :: rest => .ok (reversed.reverse, rest)
    | bytes => do
      let (item, rest) ← operand size fuel levels bytes
      itemsFrom size fuel levels (item :: reversed) rest

def entriesFrom (size : Nat) : (fuel levels : Nat) → (reversed : List (String × Operand K)) →
    List UInt8 → Except LexFault (List (String × Operand K) × List UInt8)
  | 0, _, _, _ => .error .unexpectedEnd
  | fuel + 1, levels, reversed, bytes =>
    match skipBlanks bytes with
    | [] => .error .unterminatedDictionary
    | 0x3E :: 0x3E :: rest => .ok (reversed.reverse, rest)
    | 0x2F :: rest => do
      let (key, rest) := name rest
      let (value, rest) ← operand size fuel levels (skipBlanks rest)
      entriesFrom size fuel levels ((key, value) :: reversed) rest
    | _ => .error .keyExpected

end

theorem operand_nil (size fuel levels : Nat) :
    operand (K := K) size fuel levels [] = .error .unexpectedEnd := by
  cases fuel <;> simp only [operand]

def endsWord (rest : List UInt8) : Bool :=
  match rest with
  | [] => true
  | byte :: _ => !isRegular byte

def imageEntriesFrom (size : Nat) : (fuel : Nat) → (reversed : List (String × Operand K)) →
    List UInt8 → Except LexFault (List (String × Operand K) × List UInt8)
  | 0, _, _ => .error .unexpectedEnd
  | fuel + 1, reversed, bytes =>
    match skipBlanks bytes with
    | [] => .error .imageDataMissing
    | 0x2F :: rest => do
      let (key, rest) := name rest
      let (value, rest) ← operand size (operandFuel fuel) nestingLimit (skipBlanks rest)
      imageEntriesFrom size fuel ((key, value) :: reversed) rest
    | 0x49 :: 0x44 :: rest =>
      if endsWord rest then
        match rest with
        | [] => .ok (reversed.reverse, [])
        | byte :: behind => .ok (reversed.reverse, if isBlank byte then behind else byte :: behind)
      else .error .imageKeyExpected
    | _ => .error .imageKeyExpected

/-- The bytes without one byte of white space at their start. -/
def dropBlank : List UInt8 → List UInt8
  | [] => []
  | byte :: rest => if isBlank byte then rest else byte :: rest

/-- Whether a word may start behind the bytes given in reverse. -/
def startsWord (reversed : List UInt8) : Bool :=
  match reversed with
  | [] => true
  | byte :: _ => isBlank byte

/-- The data of an inline image up to the word that ends it, without the white space that separates
the two, behind the data read in reverse. -/
def imageDataFrom (reversed : List UInt8) :
    List UInt8 → Except LexFault (List UInt8 × List UInt8)
  | [] => .error .imageEndMissing
  | byte :: rest =>
    match rest with
    | 0x49 :: behind =>
      if byte = 0x45 && startsWord reversed && endsWord behind then
        .ok ((dropBlank reversed).reverse, behind)
      else imageDataFrom (byte :: reversed) rest
    | _ => imageDataFrom (byte :: reversed) rest

def inlineImage (size fuel : Nat) (bytes : List UInt8) :
    Except LexFault (InlineImage K × List UInt8) := do
  let (entries, rest) ← imageEntriesFrom size fuel [] bytes
  let (data, rest) ← imageDataFrom [] rest
  return (⟨entries, data⟩, rest)

def keywordToken (size fuel : Nat) (bytes : List UInt8) : Except LexFault (Token K × List UInt8) :=
  let (word, rest) := keyword bytes
  if word = "true" then .ok (.operand (.boolean true), rest)
  else if word = "false" then .ok (.operand (.boolean false), rest)
  else if word = "null" then .ok (.operand .null, rest)
  else if word = "BI" then do
    let (image, rest) ← inlineImage size fuel rest
    return (.image image, rest)
  else .ok (.operator word, rest)

/-- The first token; none at the end. Closing brackets without a partner mean nothing. The fuel is
more than the number of bytes. -/
def next? (size : Nat) : (fuel : Nat) → List UInt8 → Except LexFault (Option (Token K × List UInt8))
  | 0, _ => .ok none
  | fuel + 1, bytes =>
    match skipBlanks bytes with
    | [] => .ok none
    | byte :: rest =>
      if byte = 0x3E then
        match rest with
        | 0x3E :: behind => next? size fuel behind
        | _ => next? size fuel rest
      else if opensOperand byte then do
        let (value, rest) ← operand size (operandFuel fuel) nestingLimit (byte :: rest)
        return some (.operand value, rest)
      else if isRegular byte then do
        let (token, rest) ← keywordToken size (fuel + 1) (byte :: rest)
        return some (token, rest)
      else next? size fuel rest

/-- The remaining tokens, behind those already read. The fuel is more than the number of bytes. -/
def tokensFrom (size : Nat) : (fuel : Nat) → Array (Token K) → List UInt8 → Lexed K
  | 0, tokens, _ => ⟨tokens, none⟩
  | fuel + 1, tokens, bytes =>
    match next? size (fuel + 1) bytes with
    | .error fault => ⟨tokens, some fault⟩
    | .ok none => ⟨tokens, none⟩
    | .ok (some (token, rest)) => tokensFrom size fuel (tokens.push token) rest

end PdfElements.Content
