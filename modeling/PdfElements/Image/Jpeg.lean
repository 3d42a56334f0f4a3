import PdfElements.Color
import PdfElements.Filter.Bits

/-!
Pictures in the baseline JPEG format: segments behind markers, then entropy-coded blocks of eight
by eight frequencies per component, from which the pixels are computed.
-/

set_option autoImplicit false

namespace PdfElements.Jpeg

open PdfElements.Filter

structure Component where
  id : Nat
  across : Nat
  down : Nat
  quantization : Nat
  deriving Repr

structure Frame where
  width : Nat
  height : Nat
  components : List Component
  deriving Repr

/-- What was read before the blocks. Tables are found by their numbers, the latest first. -/
structure Header where
  quantizations : List (Nat × List Nat)
  constants : List (Nat × PrefixCode)
  frequencies : List (Nat × PrefixCode)
  /-- After how many units the prediction starts anew; zero for never. -/
  restart : Nat
  frame? : Option Frame

def Header.empty : Header := ⟨[], [], [], 0, none⟩

def pair (high low : UInt8) : Nat := high.toNat * 256 + low.toNat

def pairs : List UInt8 → List Nat
  | high :: low :: rest => pair high low :: pairs rest
  | _ => []

/-- The quantization tables of a segment, each behind a byte with its precision and number. -/
def quantizations (tables : List (Nat × List Nat)) :
    (fuel : Nat) → List UInt8 → Option (List (Nat × List Nat))
  | _, [] => some tables
  | 0, _ => none
  | fuel + 1, kind :: rest =>
    let size := if kind.toNat / 16 = 0 then 64 else 128
    if rest.length < size then none
    else
      let steps :=
        if size = 64 then (rest.take 64).map UInt8.toNat else pairs (rest.take 128)
      quantizations ((kind.toNat % 16, steps) :: tables) fuel (rest.drop size)

/-- The prefix codes of a segment, each behind a byte with its class and number: sixteen counts of
words by length, then the symbols. -/
def codes (header : Header) : (fuel : Nat) → List UInt8 → Option Header
  | _, [] => some header
  | 0, _ => none
  | fuel + 1, kind :: rest =>
    let counts := (rest.take 16).map UInt8.toNat
    let size := 16 + PrefixCode.total counts
    if rest.length < size || (PrefixCode.free? counts).isNone then none
    else
      let symbols := ((rest.drop 16).take (PrefixCode.total counts)).map UInt8.toNat
      let entry := (kind.toNat % 16, (⟨counts, symbols.toArray⟩ : PrefixCode))
      let header :=
        if kind.toNat / 16 = 0 then { header with constants := entry :: header.constants }
        else { header with frequencies := entry :: header.frequencies }
      codes header fuel (rest.drop size)

def components : List UInt8 → Option (List Component)
  | [] => some []
  | id :: factors :: table :: rest => do
    let others ← components rest
    let across := factors.toNat / 16
    let down := factors.toNat % 16
    if across = 0 || 4 < across || down = 0 || 4 < down then none
    return ⟨id.toNat, across, down, table.toNat⟩ :: others
  | _ => none

/-- The frame that a segment describes: samples of eight bits, one component or three. -/
def frame : List UInt8 → Option Frame
  | depth :: high :: low :: left :: right :: count :: rest => do
    let components ← components (rest.take (3 * count.toNat))
    let height := pair high low
    let width := pair left right
    if depth != 8 || width = 0 || height = 0 then none
    if components.length != count.toNat || !([1, 3].contains components.length) then none
    return ⟨width, height, components⟩
  | _ => none

def selections : List UInt8 → List (Nat × Nat × Nat)
  | id :: tables :: rest => (id.toNat, tables.toNat / 16, tables.toNat % 16) :: selections rest
  | _ => []

/-- The entropy-coded data up to the next marker, in reverse and cut where the prediction starts
anew. A byte of ones in the data is followed by a zero byte, which means nothing. -/
def intervals (finished : List (List UInt8)) (reversed : List UInt8) :
    List UInt8 → List (List UInt8)
  | 0xFF :: byte :: rest =>
    if byte = 0 then intervals finished (0xFF :: reversed) rest
    else if 0xD0 ≤ byte && byte ≤ 0xD7 then intervals (reversed.reverse :: finished) [] rest
    else (reversed.reverse :: finished).reverse
  | byte :: rest => intervals finished (byte :: reversed) rest
  | [] => (reversed.reverse :: finished).reverse

/-- A number of `size` bits in which the lower half of the range stands for negative numbers. -/
def signed (size value : Nat) : Int :=
  if size = 0 || Nat.pow 2 (size - 1) ≤ value then value
  else (value : Int) - (Nat.pow 2 size - 1 : Nat)

/-- The number behind a symbol that gives its size. Missing bits are zero. -/
def number (reader : BitReader) (size : Nat) : Int × BitReader :=
  match reader.bits? size with
  | some (value, reader) => (signed size value, reader)
  | none => (signed size 0, { reader with position := 8 * reader.data.size })

/-- The order in which the frequencies of a block are written: along the diagonals. -/
def diagonalOrder : List Nat := [
  0, 1, 8, 16, 9, 2, 3, 10, 17, 24, 32, 25, 18, 11, 4, 5, 12, 19, 26, 33, 40, 48, 41, 34, 27, 20,
  13, 6, 7, 14, 21, 28, 35, 42, 49, 56, 57, 50, 43, 36, 29, 22, 15, 23, 30, 37, 44, 51, 58, 59, 52,
  45, 38, 31, 39, 46, 53, 60, 61, 54, 47, 55, 62, 63]

/-- The frequencies of a block from a place in the written order on. A symbol holds how many zeros
come first and the size of the number behind them. -/
def frequenciesFrom (code : PrefixCode) :
    (steps : Nat) → (place : Nat) → Array Int → BitReader → Option (Array Int × BitReader)
  | 0, _, block, reader => some (block, reader)
  | steps + 1, place, block, reader =>
    if 64 ≤ place then some (block, reader)
    else
      match code.symbol? reader with
      | none => some (block, { reader with position := 8 * reader.data.size })
      | some (none, _) => none
      | some (some symbol, reader) =>
        let zeros := symbol / 16
        let size := symbol % 16
        if size = 0 then
          if zeros = 15 then frequenciesFrom code steps (place + 16) block reader
          else some (block, reader)
        else
          let (value, reader) := number reader size
          let block := block.set! (diagonalOrder[place + zeros]?.getD 64) value
          frequenciesFrom code steps (place + zeros + 1) block reader

/-- A block of frequencies whose first one is written as the difference from the block before. -/
def block (constants frequencies : PrefixCode) (before : Int) (reader : BitReader) :
    Option (Array Int × BitReader) := do
  let (difference, reader) ← match constants.symbol? reader with
    | none => some ((0 : Int), reader)
    | some (none, _) => none
    | some (some size, reader) => some (number reader size)
  let first := (Array.replicate 64 (0 : Int)).set! 0 (before + difference)
  frequenciesFrom frequencies 64 1 first reader

/-- The values `8192 √2 cos(k π / 16)` for `k` from one to eight, rounded. -/
def cosines : List Int := [11363, 10703, 9633, 8192, 6436, 4433, 2260, 0]

/-- The value of the wave with the given frequency at a place, where the constant is 8192. -/
def wave (frequency place : Nat) : Int :=
  if frequency = 0 then 8192
  else
    let angle := (2 * place + 1) * frequency % 32
    let folded := if 16 < angle then 32 - angle else angle
    if folded = 0 then 11585
    else if folded ≤ 8 then cosines[folded - 1]?.getD 0
    else if folded = 16 then -11585
    else -(cosines[15 - folded]?.getD 0)

def waves (amplitude : Nat → Int) (place : Nat) : Int :=
  (List.range 8).foldl (fun sum frequency => sum + amplitude frequency * wave frequency place) 0

/-- The levels of a block, row by row: the sums of its waves in both directions, moved to the
middle of the range and limited to it. -/
def levels (block : Array Int) : Array UInt8 :=
  let rows : Array Int := ((List.range 64).map fun place =>
    waves (fun frequency => block[place / 8 * 8 + frequency]?.getD 0) (place % 8)).toArray
  let level (place : Nat) : UInt8 :=
    let sum := waves (fun frequency => rows[frequency * 8 + place % 8]?.getD 0) (place / 8)
    (max 0 (min 255 ((sum + Nat.pow 2 28) / Nat.pow 2 29 + 128))).toNat.toUInt8
  ((List.range 64).map level).toArray

structure Plane where
  component : Component
  constants : PrefixCode
  frequencies : PrefixCode
  steps : Array Nat
  /-- The first frequency of the block before. -/
  before : Int
  columns : Nat
  blocks : Array (Array UInt8)

def Plane.addBlock (plane : Plane) (row column : Nat) (reader : BitReader) :
    Option (Plane × BitReader) := do
  let (written, reader) ← block plane.constants plane.frequencies plane.before reader
  let scaled := written.mapIdx fun place (value : Int) => value * Int.ofNat (plane.steps[place]?.getD 1)
  return ({ plane with
    before := written[0]?.getD 0
    blocks := plane.blocks.set! (row * plane.columns + column) (levels scaled) }, reader)

def Plane.addUnit (plane : Plane) (row column : Nat) (reader : BitReader) :
    Option (Plane × BitReader) :=
  let across := plane.component.across
  (List.range (across * plane.component.down)).foldlM
    (fun (plane, reader) place =>
      plane.addBlock (row * plane.component.down + place / across)
        (column * across + place % across) reader)
    (plane, reader)

def addUnit (planes : List Plane) (row column : Nat) (reader : BitReader) :
    Option (List Plane × BitReader) := do
  let (reversed, reader) ← planes.foldlM
    (fun (finished, reader) plane => do
      let (plane, reader) ← plane.addUnit row column reader
      return (plane :: finished, reader))
    ([], reader)
  return (reversed.reverse, reader)

/-- The components behind the units from `first` to before `last`, of which `columns` make a
row. -/
def addInterval (planes : List Plane) (columns first last : Nat) (bytes : List UInt8) :
    Option (List Plane) := do
  let fresh := planes.map fun plane => { plane with before := 0 }
  let (planes, _) ← (List.range (last - first)).foldlM
    (fun (planes, reader) offset =>
      addUnit planes ((first + offset) / columns) ((first + offset) % columns) reader)
    (fresh, BitReader.ofBytes .highFirst bytes)
  return planes

def planes (header : Header) (frame : Frame) (selections : List (Nat × Nat × Nat))
    (columns rows : Nat) : Option (List Plane) :=
  frame.components.mapM fun component => do
    let (constants, frequencies) ← selections.lookup component.id
    let written ← header.quantizations.lookup component.quantization
    let steps := (diagonalOrder.zip written).foldl
      (fun steps (place, step) => steps.set! place step) (Array.replicate 64 1)
    let columns := columns * component.across
    return {
      component, steps, before := 0, columns
      blocks := Array.replicate (columns * (rows * component.down)) #[]
      constants := ← header.constants.lookup constants
      frequencies := ← header.frequencies.lookup frequencies }

/-- A component alone in a picture is not divided into units of several blocks. -/
def Frame.plain (frame : Frame) : Frame :=
  match frame.components with
  | [component] => { frame with components := [{ component with across := 1, down := 1 }] }
  | _ => frame

/-- The level of a component at a pixel, where the largest component has so many blocks in a unit;
smaller ones are stretched. -/
def Plane.level (plane : Plane) (mostAcross mostDown x y : Nat) : UInt8 :=
  let column := x * plane.component.across / mostAcross
  let row := y * plane.component.down / mostDown
  let levels := plane.blocks[row / 8 * plane.columns + column / 8]?.getD #[]
  levels[row % 8 * 8 + column % 8]?.getD 0

def limited (scaled : Int) : UInt8 := (max 0 (min 255 ((scaled + 32768) / 65536))).toNat.toUInt8

def colorOf (brightness blue red : UInt8) : Color :=
  let base : Int := 65536 * brightness.toNat
  let blueness : Int := (blue.toNat : Int) - 128
  let redness : Int := (red.toNat : Int) - 128
  { red := limited (base + 91881 * redness)
    green := limited (base - 22554 * blueness - 46802 * redness)
    blue := limited (base + 116130 * blueness) }

def pixelColor : List UInt8 → Color
  | [level] => ⟨level, level, level⟩
  | [brightness, blue, red] => colorOf brightness blue red
  | _ => .black

def scan (header : Header) (segment data : List UInt8) : Option (List Color) := do
  let frame := (← header.frame?).plain
  let count ← segment.head?
  let mostAcross := (frame.components.map Component.across).foldl max 1
  let mostDown := (frame.components.map Component.down).foldl max 1
  let columns := (frame.width + 8 * mostAcross - 1) / (8 * mostAcross)
  let rows := (frame.height + 8 * mostDown - 1) / (8 * mostDown)
  let units := columns * rows
  let selections := selections ((segment.drop 1).take (2 * count.toNat))
  let planes ← planes header frame selections columns rows
  let interval := if header.restart = 0 then units else header.restart
  let pieces := (intervals [] [] data).zipIdx.filter fun piece => piece.2 * interval < units
  let planes ← pieces.foldlM
    (fun planes (bytes, place) =>
      addInterval planes columns (place * interval) (min units ((place + 1) * interval)) bytes)
    planes
  return (List.range (frame.width * frame.height)).map fun place =>
    pixelColor (planes.map fun plane =>
      plane.level mostAcross mostDown (place % frame.width) (place / frame.width))

def segments (header : Header) : (fuel : Nat) → List UInt8 → Option (List Color)
  | fuel + 1, 0xFF :: marker :: rest =>
    if marker = 0xFF then segments header fuel (0xFF :: rest)
    else if marker = 0x01 || (0xD0 ≤ marker && marker ≤ 0xD7) then segments header fuel rest
    else if marker = 0xD9 then none
    else
      match rest with
      | high :: low :: behind =>
        let size := pair high low - 2
        let segment := behind.take size
        let rest := behind.drop size
        if pair high low < 2 || segment.length < size then none
        else if marker = 0xDB then do
          let tables ← quantizations header.quantizations size segment
          segments { header with quantizations := tables } fuel rest
        else if marker = 0xC4 then do
          let header ← codes header size segment
          segments header fuel rest
        else if marker = 0xC0 || marker = 0xC1 then do
          let frame ← frame segment
          segments { header with frame? := some frame } fuel rest
        else if 0xC2 ≤ marker && marker ≤ 0xCF && marker != 0xC8 && marker != 0xCC then none
        else if marker = 0xDD then
          match segment with
          | [high, low] => segments { header with restart := pair high low } fuel rest
          | _ => none
        else if marker = 0xDA then scan header segment rest
        else segments header fuel rest
      | _ => none
  | fuel + 1, _ :: rest => segments header fuel rest
  | _, _ => none

/-- The pixels of a picture, row by row; none when it cannot be decoded. -/
def pixels? (bytes : List UInt8) : Option (List Color) :=
  match bytes with
  | 0xFF :: 0xD8 :: rest => segments .empty rest.length rest
  | _ => none

end PdfElements.Jpeg
