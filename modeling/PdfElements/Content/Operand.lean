import PdfElements.Scalar
import PdfElements.Text.Quoted

/-!
Operands and tokens of content streams.
-/

set_option autoImplicit false

namespace PdfElements

/-- A value in a content stream. Names are text, strings are bytes, and the entries of a dictionary
keep their order and their repetitions. -/
inductive Operand (K : Type) where
  | integer (value : Int)
  | real (value : K)
  | name (value : String)
  | literal (value : List UInt8)
  | hexadecimal (value : List UInt8)
  | array (items : List (Operand K))
  | boolean (value : Bool)
  | null
  | dictionary (entries : List (String × Operand K))

namespace Operand

variable {K : Type}

def number? [Scalar K] : Operand K → Option K
  | .integer value => some (Scalar.ofInt value)
  | .real value => some value
  | _ => none

def name? : Operand K → Option String
  | .name value => some value
  | _ => none

def string? : Operand K → Option (List UInt8)
  | .literal value => some value
  | .hexadecimal value => some value
  | _ => none

def array? : Operand K → Option (List (Operand K))
  | .array items => some items
  | _ => none

def bracketed (items : List String) : String := "[" ++ String.intercalate ", " items ++ "]"

def bytesText (bytes : List UInt8) : String :=
  bracketed (bytes.map fun byte => toString byte.toNat)

variable [Scalar K]

mutual

def text : Operand K → String
  | .integer value => "Integer(" ++ toString value ++ ")"
  | .real value => "Real(" ++ Scalar.diagnosticText value ++ ")"
  | .name value => "Name(" ++ Text.quoted value ++ ")"
  | .literal value => "LiteralString(" ++ bytesText value ++ ")"
  | .hexadecimal value => "HexString(" ++ bytesText value ++ ")"
  | .array items => "Array(" ++ bracketed (texts items) ++ ")"
  | .boolean value => "Boolean(" ++ (if value then "true" else "false") ++ ")"
  | .null => "Null"
  | .dictionary entries => "Dictionary(" ++ bracketed (entryTexts entries) ++ ")"

def texts : List (Operand K) → List String
  | [] => []
  | item :: rest => text item :: texts rest

def entryTexts : List (String × Operand K) → List String
  | [] => []
  | (key, value) :: rest => ("(" ++ Text.quoted key ++ ", " ++ text value ++ ")") :: entryTexts rest

end

end Operand

structure InlineImage (K : Type) where
  entries : List (String × Operand K)
  data : List UInt8

inductive Token (K : Type) where
  | operand (operand : Operand K)
  | operator (name : String)
  | image (image : InlineImage K)

end PdfElements
