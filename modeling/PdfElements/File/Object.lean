import PdfElements.Content.Spelling
import PdfElements.Object.Basic

/-!
Reading the objects that are written in a file. Every scanner takes the bytes that are left and
returns what it read with the bytes behind it, or nothing when the bytes begin with no such thing.
-/

set_option autoImplicit false

namespace PdfElements.File

open Content

def behindWord? (word : String) (bytes : List UInt8) : Option (List UInt8) :=
  let expected := Text.encodeUtf8 word
  if bytes.take expected.length = expected then some (bytes.drop expected.length) else none

/-- The bytes behind one line end: a line feed, a carriage return or both. -/
def behindLineEnd? : List UInt8 → Option (List UInt8)
  | 0x0D :: 0x0A :: rest => some rest
  | 0x0D :: rest => some rest
  | 0x0A :: rest => some rest
  | _ => none

def skipLineEnd (bytes : List UInt8) : List UInt8 := (behindLineEnd? bytes).getD bytes

/-- A number without a sign that is less than a bound. -/
def natural? (bound : Nat) (bytes : List UInt8) : Option (Nat × List UInt8) :=
  let digits := bytes.takeWhile isDigit
  let value := digitsValue digits
  if digits.isEmpty || bound ≤ value then none else some (value, bytes.dropWhile isDigit)

/-- The number and the generation of an object, each with the blanks behind it. -/
def id? (bytes : List UInt8) : Option (ObjectId × List UInt8) := do
  let (number, rest) ← natural? (Nat.pow 2 32) bytes
  let (generation, rest) ← natural? (Nat.pow 2 16) (skipBlanks rest)
  return (⟨number, generation⟩, skipBlanks rest)

def reference? (bytes : List UInt8) : Option (Object × List UInt8) := do
  let (target, rest) ← id? bytes
  return (.reference target, ← behindWord? "R" rest)

def integerOf? (negative : Bool) (digits : List UInt8) : Option Int :=
  let magnitude := digitsValue digits
  let value : Int := if negative then -(magnitude : Int) else magnitude
  if digits.isEmpty then none
  else if -(Nat.pow 2 63) ≤ value && value < Nat.pow 2 63 then some value
  else none

def realOf (negative : Bool) (digits : List UInt8) (places : Nat) : Float32 :=
  let magnitude := Float32.ofScientific (digitsValue digits) true places
  if negative then -magnitude else magnitude

/-- A number with at most one sign. One with a point is real and has a digit on either side. -/
def number? (bytes : List UInt8) : Option (Object × List UInt8) :=
  let sign := (bytes.take 1).filter isSign
  let negative := sign == [0x2D]
  let unsigned := bytes.drop sign.length
  let whole := unsigned.takeWhile isDigit
  match unsigned.dropWhile isDigit with
  | 0x2E :: behind =>
    let fraction := behind.takeWhile isDigit
    let digits := whole ++ fraction
    if digits.isEmpty then none
    else some (.real (realOf negative digits fraction.length), behind.dropWhile isDigit)
  | rest => (integerOf? negative whole).map fun value => (.integer value, rest)

def string? (form : StringForm) (bytes : List UInt8) : Option (Object × List UInt8) :=
  let read := match form with
    | .literal => Content.literal bytes
    | .hexadecimal => hexadecimalFrom [] bytes
  read.toOption.map fun (value, rest) => (.string value form, rest)

def name (bytes : List UInt8) : List UInt8 × List UInt8 :=
  (decodeName (bytes.takeWhile isRegular), bytes.dropWhile isRegular)

def word? (bytes : List UInt8) : Option (Object × List UInt8) :=
  let read (word : String) (value : Object) : Option (Object × List UInt8) :=
    (behindWord? word bytes).map fun rest => (value, rest)
  (read "null" .null).orElse fun _ =>
    (read "true" (.boolean true)).orElse fun _ => read "false" (.boolean false)

def simple? (bytes : List UInt8) : Option (Object × List UInt8) :=
  match bytes with
  | 0x28 :: rest => string? .literal rest
  | 0x3C :: rest => string? .hexadecimal rest
  | 0x2F :: rest =>
    let (value, rest) := name rest
    some (.name value, rest)
  | _ => (reference? bytes).orElse fun _ => (number? bytes).orElse fun _ => word? bytes

mutual

def object? : (fuel : Nat) → List UInt8 → Option (Object × List UInt8)
  | 0, _ => none
  | fuel + 1, bytes =>
    match bytes with
    | 0x5B :: rest => do
      let (items, rest) ← itemsFrom? fuel [] rest
      return (.array items, rest)
    | 0x3C :: 0x3C :: rest => do
      let (entries, rest) ← entriesFrom? fuel [] rest
      return (.dictionary entries, rest)
    | bytes => simple? bytes

def itemsFrom? : (fuel : Nat) → (reversed : List Object) → List UInt8 →
    Option (List Object × List UInt8)
  | 0, _, _ => none
  | fuel + 1, reversed, bytes =>
    match skipBlanks bytes with
    | 0x5D :: rest => some (reversed.reverse, rest)
    | bytes => do
      let (item, rest) ← object? fuel bytes
      itemsFrom? fuel (item :: reversed) rest

/-- The entries of a dictionary up to its end, behind the entries read before. Of two entries with
one key the later counts. -/
def entriesFrom? : (fuel : Nat) → (entries : Dictionary) → List UInt8 →
    Option (Dictionary × List UInt8)
  | 0, _, _ => none
  | fuel + 1, entries, bytes =>
    match skipBlanks bytes with
    | 0x3E :: 0x3E :: rest => some (entries, rest)
    | 0x2F :: rest => do
      let (key, rest) := name rest
      let (value, rest) ← object? fuel (skipBlanks rest)
      entriesFrom? fuel (entries.set key value) rest
    | _ => none

end

def dictionary? (bytes : List UInt8) : Option (Dictionary × List UInt8) := do
  let (object, rest) ← object? (operandFuel bytes.length) bytes
  return (← object.dictionary?, rest)

/-- The data of a stream behind its dictionary: so many bytes as it says, between two words. -/
def data? (length : Nat) (bytes : List UInt8) : Option (List UInt8) :=
  let behind := skipLineEnd (bytes.drop length)
  if bytes.length < length then none
  else (behindWord? "endstream" behind).map fun _ => bytes.take length

/-- What a dictionary and the bytes behind it make: a stream where the data follows, else the
dictionary. A stream without a known length is empty, and one of negative length is nothing. -/
def streamOr? (length? : Object → Option Int) (entries : Dictionary) (bytes : List UInt8) :
    Option Object :=
  match (behindWord? "stream" (skipBlanks bytes)).bind behindLineEnd? with
  | none => some (.dictionary entries)
  | some rest =>
    match (entries.find? "Length").bind length? with
    | none => some (.stream entries [])
    | some length =>
      if length < 0 then none
      else
        match data? length.toNat rest with
        | some data => some (.stream entries data)
        | none => some (.dictionary entries)

/-- The object that is written here under a number of its own. Lengths of streams may be told by
other objects. -/
def numbered? (length? : Object → Option Int) (bytes : List UInt8) :
    Option (ObjectId × Object) := do
  let (id, rest) ← id? (skipBlanks bytes)
  let body := skipBlanks (← behindWord? "obj" rest)
  let (object, rest) ← object? (operandFuel body.length) body
  match object with
  | .dictionary entries => return (id, ← streamOr? length? entries rest)
  | object => return (id, object)

end PdfElements.File
