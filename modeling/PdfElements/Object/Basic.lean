import PdfElements.Scalar
import PdfElements.Text.Quoted
import PdfElements.Text.Utf8

/-!
The objects that documents are made of, reading them as values of one kind, and their text in
diagnostics.
-/

set_option autoImplicit false

namespace PdfElements

structure ObjectId where
  number : Nat
  generation : Nat
  deriving DecidableEq, Repr

inductive StringForm where
  | literal
  | hexadecimal
  deriving DecidableEq, Repr

/-- An object. Names and strings are bytes; keys of a dictionary are names, and its entries keep
the order in which they were set. -/
inductive Object where
  | null
  | boolean (value : Bool)
  | integer (value : Int)
  | real (value : Float32)
  | name (value : List UInt8)
  | string (value : List UInt8) (form : StringForm)
  | array (items : List Object)
  | dictionary (entries : List (List UInt8 × Object))
  | stream (entries : List (List UInt8 × Object)) (data : List UInt8)
  | reference (target : ObjectId)

instance : Inhabited Object := ⟨.null⟩

abbrev Dictionary := List (List UInt8 × Object)

namespace Dictionary

def get? (dictionary : Dictionary) (key : List UInt8) : Option Object :=
  match dictionary with
  | [] => none
  | (candidate, value) :: rest => if candidate = key then some value else get? rest key

def find? (dictionary : Dictionary) (key : String) : Option Object :=
  dictionary.get? (Text.encodeUtf8 key)

/-- Sets a key. A key that is present keeps its place. -/
def set (dictionary : Dictionary) (key : List UInt8) (value : Object) : Dictionary :=
  match dictionary with
  | [] => [(key, value)]
  | (candidate, old) :: rest =>
    if candidate = key then (candidate, value) :: rest else (candidate, old) :: set rest key value

end Dictionary

/-- Bytes with the dictionary that describes them. -/
structure Stream where
  entries : Dictionary
  data : List UInt8

inductive ObjectKind where
  | null
  | boolean
  | integer
  | real
  | name
  | string
  | array
  | dictionary
  | stream
  | reference
  deriving DecidableEq, Repr

def ObjectKind.text : ObjectKind → String
  | .null => "Null"
  | .boolean => "Boolean"
  | .integer => "Integer"
  | .real => "Real"
  | .name => "Name"
  | .string => "String"
  | .array => "Array"
  | .dictionary => "Dictionary"
  | .stream => "Stream"
  | .reference => "Reference"

inductive ObjectFault where
  | notFound (id : ObjectId)
  /-- A chain of references that is too long to be anything but a cycle. -/
  | referenceLimit
  | wrongKind (expected : List ObjectKind) (found : ObjectKind)
  deriving DecidableEq, Repr

def ObjectId.text (id : ObjectId) : String := toString id.number ++ " " ++ toString id.generation

def ObjectFault.message : ObjectFault → String
  | .notFound id => "object ID " ++ id.text ++ " not found"
  | .referenceLimit => "dereferencing object reached limit, may indicate a reference cycle"
  | .wrongKind expected found =>
    "object has wrong type; expected type " ++
      String.intercalate " or " (expected.map ObjectKind.text) ++ " but found type " ++ found.text

namespace Object

def kind : Object → ObjectKind
  | .null => .null
  | .boolean _ => .boolean
  | .integer _ => .integer
  | .real _ => .real
  | .name _ => .name
  | .string _ _ => .string
  | .array _ => .array
  | .dictionary _ => .dictionary
  | .stream _ _ => .stream
  | .reference _ => .reference

def name? : Object → Option (List UInt8)
  | .name value => some value
  | _ => none

def integer? : Object → Option Int
  | .integer value => some value
  | _ => none

def boolean? : Object → Option Bool
  | .boolean value => some value
  | _ => none

def array? : Object → Option (List Object)
  | .array items => some items
  | _ => none

/-- The entries of a dictionary; a stream is not one. -/
def dictionary? : Object → Option Dictionary
  | .dictionary entries => some entries
  | _ => none

def stream? : Object → Option Stream
  | .stream entries data => some ⟨entries, data⟩
  | _ => none

def reference? : Object → Option ObjectId
  | .reference target => some target
  | _ => none

def number? {K : Type} [Scalar K] : Object → Option K
  | .integer value => some (Scalar.ofInt value)
  | .real value => some (Scalar.ofSingle value)
  | _ => none

def expect {α : Type} (object : Object) (kind : ObjectKind) : Option α → Except ObjectFault α
  | some value => .ok value
  | none => .error (.wrongKind [kind] object.kind)

def asStream (object : Object) : Except ObjectFault Stream := object.expect .stream object.stream?

def asDictionary (object : Object) : Except ObjectFault Dictionary :=
  object.expect .dictionary object.dictionary?

def asReference (object : Object) : Except ObjectFault ObjectId :=
  object.expect .reference object.reference?

mutual

def text : Object → String
  | .null => "Null"
  | .boolean value => if value then "true" else "false"
  | .integer value => toString value
  | .real value => Number.Style.plain.single value
  | .name value => "/" ++ Text.decodeUtf8 value
  | .string value .literal => "(" ++ Text.decodeUtf8 value ++ ")"
  | .string value .hexadecimal =>
    "<" ++ String.join (value.map fun byte => Text.hexPair byte.toNat) ++ ">"
  | .array items => "[" ++ String.intercalate " " (texts items) ++ "]"
  | .dictionary entries => "<<" ++ entriesText entries ++ ">>"
  | .stream entries _ => "<<" ++ entriesText entries ++ ">>stream...endstream"
  | .reference target => target.text ++ " R"

def texts : List Object → List String
  | [] => []
  | item :: rest => text item :: texts rest

def entriesText : List (List UInt8 × Object) → String
  | [] => ""
  | (key, value) :: rest => "/" ++ Text.decodeUtf8 key ++ " " ++ text value ++ entriesText rest

end

end Object

end PdfElements
