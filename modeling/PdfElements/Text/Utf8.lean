/-!
Reading bytes as UTF-8 text when they may not be: every maximal part that no character starts with
is replaced by one replacement character.
-/

set_option autoImplicit false

namespace PdfElements.Text

def replacement : Char := '\uFFFD'

/-- A character of which the first bytes were read: the bits so far, how many bytes are missing,
and what the next of them may be. -/
structure Partial where
  bits : Nat
  missing : Nat
  least : UInt8
  greatest : UInt8
  deriving DecidableEq, Repr

/-- What a byte above ASCII begins. The narrower second bytes rule out overlong forms, surrogates
and code points that are too large. -/
def Partial.ofLead? (byte : UInt8) : Option Partial :=
  let bits (count : Nat) : Nat := byte.toNat % Nat.pow 2 count
  if byte < 0xC2 then none
  else if byte ≤ 0xDF then some ⟨bits 5, 1, 0x80, 0xBF⟩
  else if byte = 0xE0 then some ⟨bits 4, 2, 0xA0, 0xBF⟩
  else if byte = 0xED then some ⟨bits 4, 2, 0x80, 0x9F⟩
  else if byte ≤ 0xEF then some ⟨bits 4, 2, 0x80, 0xBF⟩
  else if byte = 0xF0 then some ⟨bits 3, 3, 0x90, 0xBF⟩
  else if byte ≤ 0xF3 then some ⟨bits 3, 3, 0x80, 0xBF⟩
  else if byte = 0xF4 then some ⟨bits 3, 3, 0x80, 0x8F⟩
  else none

/-- The characters that a byte completes at the start of a character, and what it begins. -/
def startChar (byte : UInt8) : List Char × Option Partial :=
  if byte < 0x80 then ([Char.ofNat byte.toNat], none)
  else
    match Partial.ofLead? byte with
    | none => ([replacement], none)
    | some pending => ([], some pending)

/-- The characters that a byte completes within a character, and what is pending behind it. A byte
that does not fit is the start of another character. -/
def Partial.push (pending : Partial) (byte : UInt8) : List Char × Option Partial :=
  if pending.least ≤ byte && byte ≤ pending.greatest then
    let bits := pending.bits * 64 + byte.toNat % 64
    if pending.missing ≤ 1 then ([Char.ofNat bits], none)
    else ([], some ⟨bits, pending.missing - 1, 0x80, 0xBF⟩)
  else
    let next := startChar byte
    (replacement :: next.1, next.2)

/-- The characters of the rest of a text, with a replacement for each part that is not UTF-8. -/
def decodeChars : Option Partial → List UInt8 → List Char
  | none, [] => []
  | some _, [] => [replacement]
  | none, byte :: rest =>
    let next := startChar byte
    next.1 ++ decodeChars next.2 rest
  | some pending, byte :: rest =>
    let next := pending.push byte
    next.1 ++ decodeChars next.2 rest

def decodeUtf8 (bytes : List UInt8) : String := String.ofList (decodeChars none bytes)

def encodeUtf8 (text : String) : List UInt8 := text.toList.flatMap String.utf8EncodeChar

end PdfElements.Text
