import PdfElements.Scalar
import PdfElements.Text.Quoted

/-!
JSON values and their text, indented by two spaces a level.
-/

set_option autoImplicit false

namespace PdfElements

/-- A JSON value. The fields of an object keep their order. -/
inductive Json (K : Type) where
  | null
  | boolean (value : Bool)
  | integer (value : Int)
  | number (value : K)
  | text (value : String)
  | array (items : List (Json K))
  | object (fields : List (String × Json K))
  deriving Inhabited

namespace Json

/-- A character as it stands between quotes: quotes, backslashes and control characters are
escaped. -/
def escape (character : Char) : String :=
  if character = '"' then "\\\""
  else if character = '\\' then "\\\\"
  else if character = '\n' then "\\n"
  else if character = '\t' then "\\t"
  else if character = '\r' then "\\r"
  else if character.toNat = 8 then "\\b"
  else if character.toNat = 12 then "\\f"
  else if character.toNat < 32 then "\\u00" ++ Text.hexPair character.toNat
  else character.toString

def quoted (text : String) : String := "\"" ++ String.join (text.toList.map escape) ++ "\""

def lineStart (level : Nat) : String := "\n" ++ String.ofList (List.replicate (2 * level) ' ')

/-- Items between brackets, each on a line of its own; nothing stands between the brackets when
there are no items. -/
def enclosed (opening closing : String) (level : Nat) (items : List String) : String :=
  if items.isEmpty then opening ++ closing
  else
    let lines := items.map fun item => lineStart (level + 1) ++ item
    opening ++ String.intercalate "," lines ++ lineStart level ++ closing

variable {K : Type} [Scalar K]

mutual

def render (level : Nat) : Json K → String
  | .null => "null"
  | .boolean value => if value then "true" else "false"
  | .integer value => toString value
  | .number value => Scalar.jsonText value
  | .text value => quoted value
  | .array items => enclosed "[" "]" level (renderItems (level + 1) items)
  | .object fields => enclosed "\x7b" "\x7d" level (renderFields (level + 1) fields)

def renderItems (level : Nat) : List (Json K) → List String
  | [] => []
  | item :: rest => render level item :: renderItems level rest

def renderFields (level : Nat) : List (String × Json K) → List String
  | [] => []
  | (key, value) :: rest =>
    (quoted key ++ ": " ++ render level value) :: renderFields level rest

end

def field? {K : Type} (json : Json K) (key : String) : Option (Json K) :=
  match json with
  | .object fields => fields.lookup key
  | _ => none

def text? {K : Type} : Json K → Option String
  | .text value => some value
  | _ => none

def natural? {K : Type} : Json K → Option Nat
  | .integer value => value.toNat?
  | _ => none

/-- The value in a field that may be absent or null: none if it is there and of another kind. -/
def optional? {K α : Type} (json : Json K) (key : String) (decode : Json K → Option α) :
    Option (Option α) :=
  match json.field? key with
  | none => some none
  | some .null => some none
  | some value => (decode value).map some

def orNull {K α : Type} (encode : α → Json K) : Option α → Json K
  | some value => encode value
  | none => .null

end Json

end PdfElements
