/-!
Classes of bytes in content streams: blanks, delimiters and all others.
-/

set_option autoImplicit false

namespace PdfElements.Content

def isBlank (byte : UInt8) : Bool :=
  byte = 0x20 || byte = 0x09 || byte = 0x0D || byte = 0x0A || byte = 0x0C || byte = 0x00

/-- Whether a byte ends what stands before it: one of the brackets, a slash or a percent sign. -/
def isDelimiter (byte : UInt8) : Bool :=
  byte = 0x28 || byte = 0x29 || byte = 0x3C || byte = 0x3E || byte = 0x5B || byte = 0x5D ||
    byte = 0x7B || byte = 0x7D || byte = 0x2F || byte = 0x25

/-- Whether a byte may stand in a name or an operator. -/
def isRegular (byte : UInt8) : Bool := !isBlank byte && !isDelimiter byte

def isDigit (byte : UInt8) : Bool := 0x30 ≤ byte && byte ≤ 0x39

def isOctalDigit (byte : UInt8) : Bool := 0x30 ≤ byte && byte ≤ 0x37

def isSign (byte : UInt8) : Bool := byte = 0x2B || byte = 0x2D

def beginsNumber (byte : UInt8) : Bool := isDigit byte || isSign byte || byte = 0x2E

def opensOperand (byte : UInt8) : Bool :=
  byte = 0x28 || byte = 0x3C || byte = 0x5B || byte = 0x2F || beginsNumber byte

/-- Whether a byte is a bracket that closes what it does not open: all but the angle. -/
def isStray (byte : UInt8) : Bool := byte = 0x5D || byte = 0x29 || byte = 0x7D || byte = 0x7B

def hexValue? (byte : UInt8) : Option UInt8 :=
  if isDigit byte then some (byte - 0x30)
  else if 0x61 ≤ byte && byte ≤ 0x66 then some (byte - 0x61 + 10)
  else if 0x41 ≤ byte && byte ≤ 0x46 then some (byte - 0x41 + 10)
  else none

end PdfElements.Content
