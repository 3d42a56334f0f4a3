import PdfElements.Text.Printable

/-!
Text and characters between quotes, as diagnostics show them: what cannot be seen is written as an
escape.
-/

set_option autoImplicit false

namespace PdfElements.Text

def hexDigits (number : Nat) : String := String.ofList (Nat.toDigits 16 number)

def hexPair (number : Nat) : String :=
  if number < 16 then "0" ++ hexDigits number else hexDigits number

def upperHexPair (number : Nat) : String := String.ofList ((hexPair number).toList.map Char.toUpper)

/-- A character as it stands between quotes of the given kind. -/
def escape (quote : Char) (character : Char) : String :=
  if character = '\x00' then "\\0"
  else if character = '\t' then "\\t"
  else if character = '\r' then "\\r"
  else if character = '\n' then "\\n"
  else if character = '\\' then "\\\\"
  else if character = quote then String.ofList ['\\', quote]
  else if isPrintable character then character.toString
  else "\\u\x7b" ++ hexDigits character.toNat ++ "\x7d"

def quoted (text : String) : String :=
  "\"" ++ String.join (text.toList.map (escape '"')) ++ "\""

def quotedChar (character : Char) : String :=
  "'" ++ escape '\'' character ++ "'"

end PdfElements.Text
