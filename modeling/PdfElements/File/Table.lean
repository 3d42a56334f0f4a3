import PdfElements.Failure
import PdfElements.File.Object

/-!
How a file leads to its objects: the last lines say where the cross-reference table begins, the
table says where the objects begin, and the trailer behind the table says which of them to start
with.
-/

set_option autoImplicit false

namespace PdfElements.File

open Content

inductive FileFault where
  | header
  | start
  /-- There is no cross-reference table with a trailer where it should be. -/
  | trailer
  deriving DecidableEq, Repr

def FileFault.message : FileFault → String
  | .header => "couldn't parse input: invalid file header"
  | .start => "failed parsing cross reference table: invalid start value"
  | .trailer => "couldn't parse input: invalid file trailer"

def FileFault.toDocumentError (fault : FileFault) : DocumentError :=
  .parse ("failed to parse PDF: " ++ fault.message)

/-- The bytes from the first occurrence of a word. -/
def fromWord? (word : String) : List UInt8 → Option (List UInt8)
  | [] => none
  | byte :: rest =>
    if (behindWord? word (byte :: rest)).isSome then some (byte :: rest) else fromWord? word rest

/-- The bytes from the last occurrence of a word. -/
def fromLastWord? (word : String) : List UInt8 → Option (List UInt8)
  | [] => none
  | byte :: rest =>
    (fromLastWord? word rest).orElse fun _ =>
      if (behindWord? word (byte :: rest)).isSome then some (byte :: rest) else none

/-- The bytes from the header of a document; offsets count from there. -/
def withoutPreamble (bytes : List UInt8) : List UInt8 := (fromWord? "%PDF-" bytes).getD bytes

def isInLine (byte : UInt8) : Bool := byte != 0x0D && byte != 0x0A

/-- Whether the bytes begin with a header: one line of text that starts with a mark. -/
def hasHeader (bytes : List UInt8) : Bool :=
  match behindWord? "%PDF-" bytes with
  | none => false
  | some rest =>
    Text.encodeUtf8 (Text.decodeUtf8 (rest.takeWhile isInLine)) == rest.takeWhile isInLine &&
      !(rest.dropWhile isInLine).isEmpty

def endMarkReach : Nat := 512

/-- How many bytes before the end mark may hold the start of the table. -/
def startReach : Nat := 25

/-- Spaces may stand around the start of the table. -/
def skipSpaces (bytes : List UInt8) : List UInt8 := bytes.dropWhile (· = 0x20)

def namedStart? (bytes : List UInt8) : Option Nat := do
  let rest ← behindLineEnd? (← behindWord? "startxref" bytes)
  let (start, rest) ← number? (skipSpaces rest)
  let _ ← behindWord? "%%EOF" (← behindLineEnd? (skipSpaces rest))
  match start with
  | .integer (.ofNat start) => some start
  | _ => none

/-- Where the cross-reference table begins, as the last end mark and the lines before it tell. -/
def start? (bytes : List UInt8) : Option Nat := do
  let size := bytes.length
  let place := size - (← fromLastWord? "%%EOF" (bytes.drop (size - endMarkReach))).length
  if place ≤ startReach then none
  let start ← namedStart? (← fromLastWord? "startxref" (bytes.drop (place - startReach)))
  if start ≤ size then some start else none

abbrev Table := List (Nat × Nat)

def Table.set (table : Table) (number offset : Nat) : Table :=
  match table with
  | [] => [(number, offset)]
  | (candidate, old) :: rest =>
    if candidate = number then (number, offset) :: rest
    else (candidate, old) :: Table.set rest number offset

/-- One entry of a table: an offset, a generation, a letter for the use and two bytes to end the
line. The offset counts only where an object is in use. -/
def entry? (bytes : List UInt8) : Option (Option Nat × List UInt8) := do
  let (offset, rest) ← natural? (Nat.pow 2 32) bytes
  let (generation, rest) ← natural? (Nat.pow 2 32) (← behindWord? " " rest)
  match ← behindWord? " " rest with
  | 0x66 :: _ :: _ :: rest => some (none, rest)
  | 0x6E :: _ :: _ :: rest => some (if generation < Nat.pow 2 16 then some offset else none, rest)
  | _ => none

/-- The table with the entries that follow, of which the first is for the given number. The fuel is
no less than the number of bytes. -/
def entriesInto (table : Table) : (fuel number : Nat) → List UInt8 → Table × List UInt8
  | 0, _, bytes => (table, bytes)
  | fuel + 1, number, bytes =>
    match entry? bytes with
    | none => (table, bytes)
    | some (offset?, rest) =>
      let table := match offset? with
        | some offset => table.set number offset
        | none => table
      entriesInto table fuel (number + 1) rest

/-- The first number of a section of a table, in the line that begins it. The entries are not
counted by what it says. -/
def section? (bytes : List UInt8) : Option (Nat × List UInt8) := do
  let (first, rest) ← natural? (Nat.pow 2 32) bytes
  let (_, rest) ← natural? (Nat.pow 2 32) (← behindWord? " " rest)
  let rest ← behindLineEnd? ((behindWord? " " rest).getD rest)
  return (first, rest)

/-- The table with the sections that follow. The fuel is no less than the number of bytes. -/
def sectionsInto (table : Table) : (fuel : Nat) → List UInt8 → Table × List UInt8
  | 0, bytes => (table, bytes)
  | fuel + 1, bytes =>
    match section? bytes with
    | none => (table, bytes)
    | some (first, rest) =>
      let (table, rest) := entriesInto table rest.length first rest
      sectionsInto table fuel rest

/-- The table that begins here, with the trailer behind it. There is at least one section, and the
trailer tells the size of the table. -/
def tableAndTrailer? (bytes : List UInt8) : Option (Table × Dictionary) := do
  let rest ← behindLineEnd? (← behindWord? "xref" bytes)
  let _ ← section? rest
  let (table, rest) := sectionsInto [] rest.length rest
  let (trailer, _) ← dictionary? (skipBlanks (← behindWord? "trailer" (skipBlanks rest)))
  let _ ← (← trailer.find? "Size").integer?
  return (table, trailer)

end PdfElements.File
