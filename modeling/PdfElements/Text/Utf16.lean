import PdfElements.Text.Utf8

/-!
Text as UTF-16 units. A surrogate without its partner stands for no character and reads as a
replacement.
-/

set_option autoImplicit false

namespace PdfElements.Text

def isHighSurrogate (unit : UInt16) : Bool := 0xD800 ≤ unit && unit ≤ 0xDBFF

def isLowSurrogate (unit : UInt16) : Bool := 0xDC00 ≤ unit && unit ≤ 0xDFFF

def pairChar (high low : UInt16) : Char :=
  Char.ofNat (0x10000 + (high.toNat - 0xD800) * 0x400 + (low.toNat - 0xDC00))

def unitChars : List UInt16 → List Char
  | [] => []
  | [unit] =>
    [if isHighSurrogate unit || isLowSurrogate unit then replacement else Char.ofNat unit.toNat]
  | unit :: next :: rest =>
    if isHighSurrogate unit then
      if isLowSurrogate next then pairChar unit next :: unitChars rest
      else replacement :: unitChars (next :: rest)
    else
      (if isLowSurrogate unit then replacement else Char.ofNat unit.toNat) ::
        unitChars (next :: rest)

def decodeUtf16 (units : List UInt16) : String := String.ofList (unitChars units)

/-- The units of big-endian bytes. A last byte without a partner is a unit of its own. -/
def bigEndianUnits : List UInt8 → List UInt16
  | [] => []
  | [single] => [single.toUInt16]
  | high :: low :: rest => (high.toUInt16 <<< 8 ||| low.toUInt16) :: bigEndianUnits rest

end PdfElements.Text
