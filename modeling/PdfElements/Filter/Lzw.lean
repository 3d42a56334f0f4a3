import PdfElements.Filter.Bits

/-!
Compressed data in the LZW format: codes of nine to twelve bits, each for a string of bytes that
was seen before. Data that breaks off delivers all that was decoded; data with a code that cannot
occur delivers nothing.
-/

set_option autoImplicit false

namespace PdfElements.Filter.Lzw

def clearCode : Nat := 256

def endCode : Nat := 257

/-- The strings of the codes from 258 on, and the string of the code before; none behind a clear
code. -/
structure Table where
  strings : Array (List UInt8)
  last? : Option (List UInt8)

namespace Table

def fresh : Table := ⟨#[], none⟩

def nextCode (table : Table) : Nat := 258 + table.strings.size

/-- How many bits the next code has. A code is added behind each one but the first, so the width
grows one code early when `early`. -/
def width (table : Table) (early : Bool) : Nat :=
  let used := table.nextCode + (if early then 1 else 0)
  if used < 512 then 9 else if used < 1024 then 10 else if used < 2048 then 11 else 12

/-- The string of a code. The code that is about to be added stands for the last string and its
own first byte. -/
def string? (table : Table) (code : Nat) : Option (List UInt8) :=
  if code < 256 then some [code.toUInt8]
  else if code < table.nextCode then table.strings[code - 258]?
  else if code = table.nextCode then table.last?.map fun last => last ++ last.take 1
  else none

/-- The table behind a code with the given string; a full table stays as it is. -/
def push (table : Table) (string : List UInt8) : Table :=
  match table.last? with
  | none => { table with last? := some string }
  | some last =>
    if table.nextCode < 4096 then
      { strings := table.strings.push (last ++ string.take 1), last? := some string }
    else { table with last? := some string }

end Table

def decodeFrom (early : Bool) : (steps : Nat) → Table → Array UInt8 → BitReader → Array UInt8
  | 0, _, output, _ => output
  | steps + 1, table, output, reader =>
    match reader.bits? (table.width early) with
    | none => output
    | some (code, reader) =>
      if code = clearCode then decodeFrom early steps .fresh output reader
      else if code = endCode then output
      else
        match table.string? code with
        | none => #[]
        | some string => decodeFrom early steps (table.push string) (output ++ string) reader

def decode (early : Bool) (bytes : List UInt8) : List UInt8 :=
  let reader := BitReader.ofBytes .highFirst bytes
  (decodeFrom early reader.remaining .fresh #[] reader).toList

end PdfElements.Filter.Lzw
