import PdfElements.Filter.Bits

/-!
Compressed data in the zlib format. Data is delivered in windows of 32 kilobytes: data that breaks
off delivers all that was decoded, while a window in which the data turns out to be damaged is not
delivered.
-/

set_option autoImplicit false

namespace PdfElements.Filter.Flate

inductive Stop where
  | truncated
  | damaged
  deriving DecidableEq, Repr

/-- What was decoded, and the reader behind it or why there is none. -/
structure Progress where
  output : ByteArray
  next : Except Stop BitReader

def read (reader : BitReader) (count : Nat) : Except Stop (Nat × BitReader) :=
  match reader.bits? count with
  | some result => .ok result
  | none => .error .truncated

def readSymbol (code : PrefixCode) (reader : BitReader) : Except Stop (Nat × BitReader) :=
  match code.symbol? reader with
  | some (some symbol, reader) => .ok (symbol, reader)
  | some (none, _) => .error .damaged
  | none => .error .truncated

def lengthCodes : Array (Nat × Nat) := #[
  (3, 0), (4, 0), (5, 0), (6, 0), (7, 0), (8, 0), (9, 0), (10, 0), (11, 1), (13, 1), (15, 1),
  (17, 1), (19, 2), (23, 2), (27, 2), (31, 2), (35, 3), (43, 3), (51, 3), (59, 3), (67, 4),
  (83, 4), (99, 4), (115, 4), (131, 5), (163, 5), (195, 5), (227, 5), (258, 0)]

def distanceCodes : Array (Nat × Nat) := #[
  (1, 0), (2, 0), (3, 0), (4, 0), (5, 1), (7, 1), (9, 2), (13, 2), (17, 3), (25, 3), (33, 4),
  (49, 4), (65, 5), (97, 5), (129, 6), (193, 6), (257, 7), (385, 7), (513, 8), (769, 8), (1025, 9),
  (1537, 9), (2049, 10), (3073, 10), (4097, 11), (6145, 11), (8193, 12), (12289, 12), (16385, 13),
  (24577, 13)]

def readExtended (table : Array (Nat × Nat)) (symbol : Nat) (reader : BitReader) :
    Except Stop (Nat × BitReader) :=
  match table[symbol]? with
  | none => .error .damaged
  | some (base, extra) => do
    let (value, reader) ← read reader extra
    return (base + value, reader)

/-- Repeats bytes from a distance back. Before the first byte there are only zeros. -/
def copy (distance : Nat) : (length : Nat) → ByteArray → ByteArray
  | 0, output => output
  | length + 1, output =>
    let byte := if distance ≤ output.size then output.get! (output.size - distance) else 0
    copy distance length (output.push byte)

/-- One step of a compressed block: a byte, a repetition, or the end, which is no more output. -/
def step (literals distances : PrefixCode) (output : ByteArray) (reader : BitReader) :
    Except Stop (Option ByteArray × BitReader) := do
  let (symbol, reader) ← readSymbol literals reader
  if symbol < 256 then return (some (output.push symbol.toUInt8), reader)
  else if symbol = 256 then return (none, reader)
  else
    let (length, reader) ← readExtended lengthCodes (symbol - 257) reader
    let (distanceSymbol, reader) ← readSymbol distances reader
    let (distance, reader) ← readExtended distanceCodes distanceSymbol reader
    return (some (copy distance length output), reader)

/-- The rest of a compressed block. Every step reads a bit, so as many steps as there are bits
suffice. -/
def compressedBlock (literals distances : PrefixCode) :
    (steps : Nat) → ByteArray → BitReader → Progress
  | 0, output, _ => ⟨output, .error .truncated⟩
  | steps + 1, output, reader =>
    match step literals distances output reader with
    | .error stop => ⟨output, .error stop⟩
    | .ok (none, reader) => ⟨output, .ok reader⟩
    | .ok (some output, reader) => compressedBlock literals distances steps output reader

def storedBlock (output : ByteArray) (reader : BitReader) : Progress :=
  let reader := reader.align
  match read reader 16 with
  | .error stop => ⟨output, .error stop⟩
  | .ok (length, reader) =>
    match read reader 16 with
    | .error stop => ⟨output, .error stop⟩
    | .ok (complement, reader) =>
      if length + complement != 65535 then ⟨output, .error .damaged⟩
      else
        let start := reader.position / 8
        let output := output ++ reader.data.extract start (start + length)
        if reader.data.size < start + length then ⟨output, .error .truncated⟩
        else ⟨output, .ok { reader with position := reader.position + 8 * length }⟩

/-- Whether lengths form a code: not too many words, and none left over unless there is at most
one word. -/
def isComplete (code : PrefixCode) : Bool :=
  match PrefixCode.free? code.counts with
  | none => false
  | some free => free = 0 || PrefixCode.total code.counts ≤ 1

def fixedLiterals : PrefixCode :=
  .ofLengths 15 (List.replicate 144 8 ++ List.replicate 112 9 ++ List.replicate 24 7 ++
    List.replicate 8 8)

def fixedDistances : PrefixCode := .ofLengths 15 (List.replicate 30 5)

/-- The order in which the lengths of the code for lengths are written. -/
def lengthOrder : List Nat := [16, 17, 18, 0, 8, 7, 9, 6, 10, 5, 11, 4, 12, 3, 13, 2, 14, 1, 15]

def readTriples : (count : Nat) → BitReader → Except Stop (List Nat × BitReader)
  | 0, reader => .ok ([], reader)
  | count + 1, reader => do
    let (value, reader) ← read reader 3
    let (rest, reader) ← readTriples count reader
    return (value :: rest, reader)

/-- The code lengths of a block, in reverse, until there are `wanted`. A symbol may repeat the last
length or zero; repetitions may not go past the end. -/
def readLengths (code : PrefixCode) (wanted : Nat) :
    (steps : Nat) → List Nat → BitReader → Except Stop (List Nat × BitReader)
  | 0, lengths, reader => .ok (lengths, reader)
  | steps + 1, lengths, reader =>
    if wanted ≤ lengths.length then
      if lengths.length = wanted then .ok (lengths, reader) else .error .damaged
    else do
      let (symbol, reader) ← readSymbol code reader
      match symbol, lengths with
      | 16, [] => .error .damaged
      | 16, last :: _ =>
        let (extra, reader) ← read reader 2
        readLengths code wanted steps (List.replicate (3 + extra) last ++ lengths) reader
      | 17, _ =>
        let (extra, reader) ← read reader 3
        readLengths code wanted steps (List.replicate (3 + extra) 0 ++ lengths) reader
      | 18, _ =>
        let (extra, reader) ← read reader 7
        readLengths code wanted steps (List.replicate (11 + extra) 0 ++ lengths) reader
      | symbol, _ => readLengths code wanted steps (symbol :: lengths) reader

def readCodes (reader : BitReader) : Except Stop (PrefixCode × PrefixCode × BitReader) := do
  let (literalCount, reader) ← read reader 5
  let (distanceCount, reader) ← read reader 5
  let (lengthCount, reader) ← read reader 4
  let literalCount := literalCount + 257
  let distanceCount := distanceCount + 1
  if 286 < literalCount || 30 < distanceCount then .error .damaged
  let (triples, reader) ← readTriples (lengthCount + 4) reader
  let lengthOf (symbol : Nat) : Nat :=
    match (lengthOrder.zip triples).find? fun entry => entry.1 == symbol with
    | some (_, length) => length
    | none => 0
  let lengthCode := PrefixCode.ofLengths 7 ((List.range 19).map lengthOf)
  if !isComplete lengthCode then .error .damaged
  let wanted := literalCount + distanceCount
  let (reversed, reader) ← readLengths lengthCode wanted (wanted + 1) [] reader
  let lengths := reversed.reverse
  let literals := PrefixCode.ofLengths 15 (lengths.take literalCount)
  let distances := PrefixCode.ofLengths 15 (lengths.drop literalCount)
  if !isComplete literals || !isComplete distances then .error .damaged
  return (literals, distances, reader)

def block (kind : Nat) (output : ByteArray) (reader : BitReader) : Progress :=
  match kind with
  | 0 => storedBlock output reader
  | 1 => compressedBlock fixedLiterals fixedDistances reader.remaining output reader
  | 2 =>
    match readCodes reader with
    | .error stop => ⟨output, .error stop⟩
    | .ok (literals, distances, reader) =>
      compressedBlock literals distances reader.remaining output reader
  | _ => ⟨output, .error .damaged⟩

/-- All blocks up to the last one. -/
def blocks : (steps : Nat) → ByteArray → BitReader → Progress
  | 0, output, _ => ⟨output, .error .truncated⟩
  | steps + 1, output, reader =>
    match read reader 3 with
    | .error stop => ⟨output, .error stop⟩
    | .ok (header, reader) =>
      let progress := block (header / 2) output reader
      match progress.next with
      | .error _ => progress
      | .ok reader => if header % 2 = 1 then progress else blocks steps progress.output reader

def checksum (data : ByteArray) : Nat :=
  let sums := data.foldl
    (fun (low, high) byte =>
      let low := (low + byte.toNat) % 65521
      (low, (high + low) % 65521)) (1, 0)
  sums.2 * 65536 + sums.1

def readChecksum (reader : BitReader) : Except Stop Nat := do
  let (first, reader) ← read reader.align 8
  let (second, reader) ← read reader 8
  let (third, reader) ← read reader 8
  let (fourth, _) ← read reader 8
  return ((first * 256 + second) * 256 + third) * 256 + fourth

def windowSize : Nat := 32768

/-- The windows that were complete before the data turned out to be damaged. -/
def delivered (output : ByteArray) : ByteArray :=
  output.extract 0 (output.size / windowSize * windowSize)

def decode (bytes : List UInt8) : List UInt8 :=
  let reader := BitReader.ofBytes .lowFirst bytes
  match read reader 16 with
  | .error _ => []
  | .ok (header, reader) =>
    let method := header % 256
    let flags := header / 256
    let valid := (method * 256 + flags) % 31 = 0 && flags / 32 % 2 = 0 && method % 16 = 8 &&
      method / 16 ≤ 7
    if !valid then []
    else
      let progress := blocks reader.remaining ByteArray.empty reader
      let output := match progress.next with
        | .error .truncated => progress.output
        | .error .damaged => delivered progress.output
        | .ok reader =>
          match readChecksum reader with
          | .error _ => progress.output
          | .ok written =>
            if written = checksum progress.output then progress.output
            else delivered progress.output
      output.toList

end PdfElements.Filter.Flate
