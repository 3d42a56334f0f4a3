import PdfElements.Content.Operand
import PdfElements.Image.Filter
import PdfElements.Object.Basic

/-!
Images within a content stream, brought into the form of images outside: abbreviated keys and
names are written in full.
-/

set_option autoImplicit false

namespace PdfElements

namespace InlineImage

def fullKey (key : String) : String :=
  match key with
  | "BPC" => "BitsPerComponent"
  | "CS" => "ColorSpace"
  | "D" => "Decode"
  | "DP" => "DecodeParms"
  | "F" => "Filter"
  | "H" => "Height"
  | "IM" => "ImageMask"
  | "I" => "Interpolate"
  | "W" => "Width"
  | _ => key

def fullName (name : String) : String :=
  match ImageFilter.ofName? name with
  | some filter => filter.name
  | none =>
    match name with
    | "G" => "DeviceGray"
    | "RGB" => "DeviceRGB"
    | "CMYK" => "DeviceCMYK"
    | "I" => "Indexed"
    | _ => name

variable {K : Type} [Scalar K]

mutual

def object : Operand K → Object
  | .integer value => .integer value
  | .real value => .real (Scalar.toSingle value)
  | .name value => .name (Text.encodeUtf8 (fullName value))
  | .literal value => .string value .literal
  | .hexadecimal value => .string value .hexadecimal
  | .array items => .array (objects items)
  | .boolean value => .boolean value
  | .null => .null
  | .dictionary entries => .dictionary (setEntries [] entries)

def objects : List (Operand K) → List Object
  | [] => []
  | item :: rest => object item :: objects rest

/-- A dictionary with further entries; of several with one key, the last counts. -/
def setEntries (dictionary : Dictionary) : List (String × Operand K) → Dictionary
  | [] => dictionary
  | (key, value) :: rest =>
    setEntries (dictionary.set (Text.encodeUtf8 key) (object value)) rest

end

def toStream (image : InlineImage K) : Stream :=
  let entries := setEntries [] (image.entries.map fun entry => (fullKey entry.1, entry.2))
  let entries := entries.set (Text.encodeUtf8 "Subtype") (.name (Text.encodeUtf8 "Image"))
  { entries := entries.set (Text.encodeUtf8 "Length") (.integer image.data.length)
    data := image.data }

end InlineImage

end PdfElements
