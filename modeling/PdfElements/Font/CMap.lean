import PdfElements.Content.Lexer
import PdfElements.Font.GlyphName

/-!
Maps from character codes to text, as fonts carry them for their readers.
-/

set_option autoImplicit false

namespace PdfElements

inductive CMapEntry where
  | single (code : Nat) (text : String)
  /-- Successive codes from `low` to at most `high`, each with a text of its own or none. -/
  | listed (low high : Nat) (texts : List (Option String))
  /-- All codes from `low` to `high`; each has the last unit of the one before plus one. -/
  | run (low high : Nat) (units : List UInt16)
  deriving DecidableEq, Repr

namespace CMapEntry

def shiftLast (units : List UInt16) (distance : Nat) : List UInt16 :=
  match units.getLast? with
  | none => []
  | some last => units.dropLast ++ [last + distance.toUInt16]

def text? (entry : CMapEntry) (code : Nat) : Option String :=
  match entry with
  | single own text => if code = own then some text else none
  | listed low high texts =>
    if low ≤ code && code ≤ high then (texts[code - low]?).join else none
  | run low high units =>
    if low ≤ code && code ≤ high then some (Text.decodeUtf16 (shiftLast units (code - low)))
    else none

def codes (entry : CMapEntry) : List Nat :=
  match entry with
  | single code _ => [code]
  | listed low high texts =>
    (texts.zipIdx.filter fun (text?, place) => text?.isSome && low + place ≤ high).map
      fun (_, place) => low + place
  | run low high _ => (List.range (high + 1 - low)).map (low + ·)

end CMapEntry

/-- A map from codes to text, and how long codes are. -/
structure CMap where
  /-- The entries, the latest first; a later entry hides earlier ones. -/
  entries : List CMapEntry
  /-- The lengths of codes that the code space ranges declare, the latest first. -/
  codeLengths : List Nat
  deriving DecidableEq, Repr

namespace CMap

def empty : CMap := ⟨[], []⟩

def text? (map : CMap) (code : Nat) : Option String :=
  map.entries.findSome? fun entry => entry.text? code

def isEmpty (map : CMap) : Bool := map.entries.all fun entry => entry.codes.isEmpty

def size (map : CMap) : Nat :=
  let sorted := (map.entries.flatMap CMapEntry.codes).mergeSort
  (sorted.zip (sorted.drop 1)).countP (fun (code, next) => code != next) +
    if sorted.isEmpty then 0 else 1

/-- The length of all codes, when every range declares the same. -/
def codeLength? (map : CMap) : Option Nat :=
  match map.codeLengths with
  | [] => none
  | first :: rest => if rest.all (· == first) then some first else none

/-- The number that a code is: its first four bytes, the highest first. -/
def codeValue (bytes : List UInt8) : Nat :=
  (bytes.take 4).foldl (fun value byte => value * 256 + byte.toNat) 0

/-- The text of UTF-16 units, the high byte of each first. -/
def bytesText (bytes : List UInt8) : String := Text.decodeUtf16 (Text.bigEndianUnits bytes)

variable {K : Type}

/-- The text of a target: a string of UTF-16 units, or a glyph name. -/
def targetText? : Operand K → Option String
  | .name name => GlyphName.text? name
  | target => target.string?.map bytesText

/-- The entries of a section for single codes, in reverse: pairs of a code and a target. -/
def charEntries (reversed : List CMapEntry) : List (Operand K) → List CMapEntry
  | source :: target :: rest =>
    match source.string?, targetText? target with
    | some code, some text => charEntries (.single (codeValue code) text :: reversed) rest
    | _, _ => charEntries reversed rest
  | _ => reversed

def runLimit : Nat := 0x10000

/-- The entry for a range of codes with one target, or a list of targets. -/
def rangeEntry? (low high : Nat) : Operand K → Option CMapEntry
  | .array targets =>
    some (.listed low high (targets.map fun target => target.string?.map bytesText))
  | target => target.string?.map fun bytes =>
      .run low (min high (low + (runLimit - 1))) (Text.bigEndianUnits bytes)

/-- The entries of a section for ranges, in reverse: first code, last code and target. -/
def rangeEntries (reversed : List CMapEntry) : List (Operand K) → List CMapEntry
  | first :: last :: target :: rest =>
    match first.string?.map codeValue, last.string?.map codeValue with
    | some low, some high =>
      if high < low then rangeEntries reversed rest
      else
        match rangeEntry? low high target with
        | some entry => rangeEntries (entry :: reversed) rest
        | none => rangeEntries reversed rest
    | _, _ => rangeEntries reversed rest
  | _ => reversed

/-- The code lengths of a section of code space ranges, in reverse. -/
def spaceLengths (reversed : List Nat) : List (Operand K) → List Nat
  | low :: _ :: rest =>
    match low.string? with
    | some bytes => spaceLengths (bytes.length :: reversed) rest
    | none => spaceLengths reversed rest
  | _ => reversed

/-- The map with a section that the operator of the given name closes. -/
def close (map : CMap) (name : String) (operands : List (Operand K)) : CMap :=
  if name = "endbfchar" then { map with entries := charEntries map.entries operands }
  else if name = "endbfrange" then { map with entries := rangeEntries map.entries operands }
  else if name = "endcodespacerange" then
    { map with codeLengths := spaceLengths map.codeLengths operands }
  else map

/-- The map and the operands, in reverse, behind a token. -/
def step (state : CMap × List (Operand K)) (token : Token K) : CMap × List (Operand K) :=
  match token with
  | .operand operand => (state.1, operand :: state.2)
  | .operator name => (state.1.close name state.2.reverse, [])
  | .image _ => (state.1, [])

/-- Reads a map. Malformed entries are left out, and what follows a lexical error too; it is a fault
only when there is no text before it. -/
def parse (bytes : List UInt8) : Except Content.LexFault CMap :=
  let lexed : Content.Lexed Float := Content.tokens bytes
  let map := (lexed.tokens.foldl step (empty, [])).1
  match lexed.fault? with
  | some fault => if map.isEmpty then .error fault else .ok map
  | none => .ok map

end CMap

end PdfElements
