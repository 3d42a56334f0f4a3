/-!
Bytes read bit by bit, from either end of each byte, and canonical prefix codes.
-/

set_option autoImplicit false

namespace PdfElements.Filter

/-- Which bit of a byte comes first. -/
inductive BitOrder where
  | lowFirst
  | highFirst
  deriving DecidableEq, Repr

/-- Bytes and how many of their bits were read. -/
structure BitReader where
  data : ByteArray
  order : BitOrder
  position : Nat

namespace BitReader

def ofBytes (order : BitOrder) (bytes : List UInt8) : BitReader := ⟨⟨bytes.toArray⟩, order, 0⟩

def remaining (reader : BitReader) : Nat := 8 * reader.data.size - reader.position

def bit? (reader : BitReader) : Option (Nat × BitReader) :=
  if h : reader.position / 8 < reader.data.size then
    let place := match reader.order with
      | .lowFirst => reader.position % 8
      | .highFirst => 7 - reader.position % 8
    some (reader.data[reader.position / 8].toNat / Nat.pow 2 place % 2,
      { reader with position := reader.position + 1 })
  else none

def bits? (reader : BitReader) : Nat → Option (Nat × BitReader)
  | 0 => some (0, reader)
  | count + 1 => do
    let (first, reader) ← reader.bit?
    let (rest, reader) ← reader.bits? count
    match reader.order with
    | .lowFirst => return (first + 2 * rest, reader)
    | .highFirst => return (first * Nat.pow 2 count + rest, reader)

def align (reader : BitReader) : BitReader :=
  { reader with position := (reader.position + 7) / 8 * 8 }

end BitReader

/-- A canonical prefix code: how many code words each length has, from length one, and the symbols
in the order of their code words. -/
structure PrefixCode where
  counts : List Nat
  symbols : Array Nat
  deriving Repr

namespace PrefixCode

/-- The code in which symbol `i` has a word of the `i`-th length, and a length of zero means that
a symbol does not occur. -/
def ofLengths (longest : Nat) (lengths : List Nat) : PrefixCode :=
  let places := lengths.zipIdx
  let withLength (length : Nat) : List Nat :=
    (places.filter fun entry => entry.1 == length).map Prod.snd
  let groups := (List.range longest).map fun index => withLength (index + 1)
  { counts := groups.map List.length, symbols := groups.flatten.toArray }

/-- How many words there are when the given counts tell them by length. -/
def total (counts : List Nat) : Nat := counts.foldl (· + ·) 0

/-- How many words of the longest length the given counts leave free, or none if there are more
words than fit. -/
def free? (counts : List Nat) : Option Nat :=
  counts.foldlM (fun left count => if count ≤ 2 * left then some (2 * left - count) else none) 1

/-- Walks down the lengths with the word read so far, the first word of the current length and
the place of that word's symbol. -/
def walk (code : PrefixCode) (reader : BitReader) :
    (word first place : Nat) → List Nat → Option (Option Nat × BitReader)
  | _, _, _, [] => some (none, reader)
  | word, first, place, count :: longer => do
    let (bit, reader) ← reader.bit?
    let word := 2 * word + bit
    if word < first + count then some (code.symbols[place + (word - first)]?, reader)
    else walk code reader word (2 * (first + count)) (place + count) longer

/-- The symbol whose word comes next: none at the end of the data, and no symbol when no word of
the code comes next. -/
def symbol? (code : PrefixCode) (reader : BitReader) : Option (Option Nat × BitReader) :=
  code.walk reader 0 0 0 code.counts

end PrefixCode

end PdfElements.Filter
