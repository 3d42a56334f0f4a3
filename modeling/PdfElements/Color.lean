import PdfElements.Number.Binary
import PdfElements.Text.Quoted

/-!
Colors as they are reported: red, green and blue in eight bits each.
-/

set_option autoImplicit false

namespace PdfElements

/-- An sRGB color. -/
structure Color where
  red : UInt8
  green : UInt8
  blue : UInt8
  deriving DecidableEq, Repr, Inhabited

namespace Color

def black : Color := ⟨0, 0, 0⟩

/-- The nearest of 256 levels to an intensity between zero and one. Intensities outside are
limited, and what is not a number is dark. -/
def level (intensity : Float32) : UInt8 :=
  if intensity.isNaN then 0
  else
    let limited := if intensity < 0.0 then 0.0 else if 1.0 < intensity then 1.0 else intensity
    (Number.roundSingleToInteger (limited * 255.0)).toUInt8

def ofIntensities (red green blue : Float32) : Color := ⟨level red, level green, level blue⟩

def ofPacked (bits : UInt32) : Color := ⟨(bits >>> 16).toUInt8, (bits >>> 8).toUInt8, bits.toUInt8⟩

/-- The 24 bits of a color, red first. -/
def packed (color : Color) : UInt32 :=
  color.red.toUInt32 <<< 16 ||| color.green.toUInt32 <<< 8 ||| color.blue.toUInt32

def text (color : Color) : String :=
  "#" ++ Text.hexPair color.red.toNat ++ Text.hexPair color.green.toNat ++
    Text.hexPair color.blue.toNat

/-- The one color that all of several pixels have; none when they differ or there are none. -/
def common? : List Color → Option Color
  | [] => none
  | first :: rest => if rest.all (· == first) then some first else none

end Color

end PdfElements
