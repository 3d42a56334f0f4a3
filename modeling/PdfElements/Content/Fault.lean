import PdfElements.Failure
import PdfElements.Text.Quoted

/-! What can be wrong with the bytes of a content stream. -/

set_option autoImplicit false

namespace PdfElements.Content

def nestingLimit : Nat := 256

inductive LexFault where
  | unexpectedEnd
  | unexpectedByte (byte : UInt8) (offset : Nat)
  | tooDeep (offset : Nat)
  | unterminatedLiteral
  | unterminatedHexadecimal
  | invalidHexDigit (byte : UInt8)
  | unterminatedArray
  | unterminatedDictionary
  | keyExpected
  | imageDataMissing
  | imageKeyExpected
  | imageEndMissing
  /-- An index, or an end of a slice, outside of as many bytes. No bytes lead there. -/
  | outOfBounds (index size : Nat)
  deriving DecidableEq, Repr

def LexFault.message : LexFault → String
  | .unexpectedEnd => "unexpected end of stream"
  | .unexpectedByte byte offset =>
    "unexpected byte 0x" ++ Text.upperHexPair byte.toNat ++ " at offset " ++ toString offset
  | .tooDeep offset =>
    "operand nesting deeper than " ++ toString nestingLimit ++ " at offset " ++ toString offset
  | .unterminatedLiteral => "unterminated literal string"
  | .unterminatedHexadecimal => "unterminated hex string"
  | .invalidHexDigit byte =>
    "invalid hex digit: " ++ Text.quotedChar (Char.ofNat byte.toNat)
  | .unterminatedArray => "unterminated array"
  | .unterminatedDictionary => "unterminated dictionary"
  | .keyExpected => "expected name key in dictionary"
  | .imageDataMissing => "unterminated inline image (missing ID)"
  | .imageKeyExpected => "expected name key in inline image dictionary"
  | .imageEndMissing => "unterminated inline image (missing EI)"
  | .outOfBounds index size =>
    "index out of bounds: the len is " ++ toString size ++ " but the index is " ++ toString index

def LexFault.toFailure (fault : LexFault) : Failure := .interpreter fault.message

end PdfElements.Content
