import PdfElements.ColorSpace
import PdfElements.Image.Jpeg
import PdfElements.Image.Metadata
import PdfElements.Image.Samples

/-!
What an image looks like: whether all of its pixels have one color.
-/

set_option autoImplicit false

namespace PdfElements

inductive ImageFault where
  | noPixels
  | unsupportedFilter (filter : ImageFilter)
  | undecodable (fault : FilterFault)
  | picture
  | mask
  | unknownSpace
  | patternSpace
  | layout (bits : Nat)
  deriving DecidableEq, Repr

def ImageFault.message : ImageFault → String
  | .noPixels => "image has no pixels"
  | .unsupportedFilter filter => filter.name ++ " is not supported"
  | .undecodable fault => "failed to decompress: " ++ fault.message
  | .picture => "JPEG decode failed"
  | .mask => "truncated image mask"
  | .unknownSpace => "unresolved color space"
  | .patternSpace => "pattern color space"
  | .layout bits => "unsupported sample layout (" ++ toString bits ++ " bpc)"

inductive Appearance where
  | uniform (color : Color)
  | varied
  | unknown (fault : ImageFault)
  deriving DecidableEq, Repr

namespace Appearance

def ofColors (colors : List Color) : Appearance :=
  match Color.common? colors with
  | some color => uniform color
  | none => varied

/-- The ranges that the samples of each component are spread over, as lower and upper bounds in
turn. -/
def ranges? (store : ObjectStore) (dictionary : Dictionary) : Option (List Float32) := do
  (← store.array? dictionary "Decode").mapM fun item =>
    match store.resolve item with
    | .integer value => some (Number.singleOfInt value)
    | .real value => some value
    | _ => none

/-- The values of the samples of a pixel. The greatest sample, `most`, has the upper bound of its
component's range; without a range, the greatest value is `most` where samples are indices, and
one elsewhere. -/
def values (ranges? : Option (List Float32)) (indices : Bool) (most : Float32)
    (samples : List Nat) : List Float32 :=
  samples.zipIdx.map fun (sample, place) =>
    let range? := ranges?.bind fun ranges => do
      return (← ranges[2 * place]?, ← ranges[2 * place + 1]?)
    let (lower, upper) := range?.getD (if indices then (0.0, most) else (0.0, 1.0))
    lower + Number.singleOfInt sample * (upper - lower) / most

/-- The appearance of a stencil: painted where samples are zero, or one if its range says so. -/
def ofMask (metadata : ImageMetadata) (ranges? : Option (List Float32)) (data : Array UInt8)
    (fill : Color) : Appearance :=
  let layout : SampleLayout := ⟨metadata.width, metadata.height, 1, 1⟩
  if !layout.fits data.size then unknown .mask
  else
    let painted := if (ranges?.bind List.head?).any (· == 1.0) then 1 else 0
    if (layout.pixels data).all (· == [painted]) then uniform fill else varied

def ofSamples (space : ColorSpace) (layout : SampleLayout) (ranges? : Option (List Float32))
    (data : Array UInt8) : Appearance :=
  if !layout.fits data.size then unknown (.layout layout.bits)
  else
    let indices := match space with | .indexed _ _ _ => true | _ => false
    let most := Number.singleOfInt (Nat.pow 2 layout.bits - 1 : Nat)
    ofColors ((layout.pixels data).map fun samples =>
      space.toColor (values ranges? indices most samples))

/-- Reads the color space of an image; shades of gray when it names none. There is no result when
the reading never ends. -/
def space (store : ObjectStore) (resources dictionary : Dictionary) :
    Option (Except ImageFault ColorSpace) := do
  let space? ← match dictionary.find? "ColorSpace" with
    | some (.name name) => ColorSpace.readName store resources (Text.decodeUtf8 name)
    | some object => ColorSpace.read store object
    | none => some (some .gray)
  return match space? with
    | none => .error .unknownSpace
    | some .pattern => .error .patternSpace
    | some (.uncolored _) => .error .patternSpace
    | some space => .ok space

/-- The appearance of a picture, whose data may have further filters. -/
def ofPicture (store : ObjectStore) (stream : Stream) : Appearance :=
  let filters := ImageMetadata.filterNames store stream.entries
  let data := if 1 < filters.length then stream.unfiltered else .ok stream.data
  match data with
  | .error fault => unknown (.undecodable fault)
  | .ok data =>
    match Jpeg.pixels? data with
    | some colors => ofColors colors
    | none => unknown .picture

def ofStream (store : ObjectStore) (resources : Dictionary) (stream : Stream)
    (metadata : ImageMetadata) (fill : Color) : Option Appearance :=
  match stream.decode with
  | .error fault => some (unknown (.undecodable fault))
  | .ok data =>
    let ranges? := ranges? store stream.entries
    if metadata.isMask then some (ofMask metadata ranges? data.toArray fill)
    else
      (space store resources stream.entries).map fun space =>
        match space with
        | .error fault => unknown fault
        | .ok space =>
          let layout : SampleLayout :=
            ⟨metadata.width, metadata.height, space.components, metadata.bits?.getD 8⟩
          ofSamples space layout ranges? data.toArray

/-- The appearance of an image. `resources` hold the color spaces that it may name, and stencils
are painted in `fill`. There is no result when reading its color space never ends. -/
def ofImage (store : ObjectStore) (resources : Dictionary) (stream : Stream) (fill : Color) :
    Option Appearance :=
  let metadata := ImageMetadata.read store stream.entries
  if metadata.width = 0 || metadata.height = 0 then some (unknown .noPixels)
  else
    match metadata.filter? with
    | some .dct => some (ofPicture store stream)
    | some filter =>
      if filter.isPicture then some (unknown (.unsupportedFilter filter))
      else ofStream store resources stream metadata fill
    | none => ofStream store resources stream metadata fill

end Appearance

end PdfElements
