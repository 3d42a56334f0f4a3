/-!
Samples of images: unsigned numbers of a fixed number of bits, packed into rows that each begin at
a byte.
-/

set_option autoImplicit false

namespace PdfElements

/-- The shape of packed image data. -/
structure SampleLayout where
  width : Nat
  height : Nat
  components : Nat
  bits : Nat
  deriving DecidableEq, Repr

namespace SampleLayout

def stride (layout : SampleLayout) : Nat :=
  (layout.width * layout.components * layout.bits + 7) / 8

/-- Whether data of the given size holds all samples, of a depth that images may have. -/
def fits (layout : SampleLayout) (size : Nat) : Bool :=
  [1, 2, 4, 8, 16].contains layout.bits && layout.components != 0 &&
    layout.stride * layout.height ≤ size

def byte (data : Array UInt8) (place : Nat) : Nat := (data[place]?.getD 0).toNat

/-- A sample of a row. Samples of sixteen bits have their high byte first, and smaller ones lie
in a byte from the high bits down. -/
def sample (layout : SampleLayout) (data : Array UInt8) (row place : Nat) : Nat :=
  let start := row * layout.stride
  if layout.bits = 16 then
    byte data (start + 2 * place) * 256 + byte data (start + 2 * place + 1)
  else
    let bit := place * layout.bits
    byte data (start + bit / 8) / Nat.pow 2 (8 - layout.bits - bit % 8) % Nat.pow 2 layout.bits

def pixel (layout : SampleLayout) (data : Array UInt8) (row column : Nat) : List Nat :=
  (List.range layout.components).map fun component =>
    layout.sample data row (column * layout.components + component)

def pixels (layout : SampleLayout) (data : Array UInt8) : List (List Nat) :=
  (List.range layout.height).flatMap fun row =>
    (List.range layout.width).map fun column => layout.pixel data row column

end SampleLayout

end PdfElements
