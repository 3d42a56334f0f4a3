import PdfElements.Geometry.Rect
import PdfElements.Image.Filter
import PdfElements.Object.Store

/-!
What the dictionary of an image says about its size and its format, and the place of an image on
a page.
-/

set_option autoImplicit false

namespace PdfElements

structure ImageMetadata where
  width : Nat
  height : Nat
  bits? : Option Nat
  /-- The name of the color space, if it is given by a name. -/
  spaceName? : Option String
  isMask : Bool
  /-- The filter that is undone last. -/
  filter? : Option ImageFilter
  deriving DecidableEq, Repr

namespace ImageMetadata

def filterNames (store : ObjectStore) (dictionary : Dictionary) : List String :=
  let name? (object : Object) : Option String := (store.resolve object).name?.map Text.decodeUtf8
  match store.find? dictionary "Filter" with
  | some (.array items) => items.filterMap name?
  | some object => (name? object).toList
  | none => []

/-- An integer of an image dictionary, limited to what is possible. -/
def count? (store : ObjectStore) (dictionary : Dictionary) (key : String) (greatest : Nat) :
    Option Nat :=
  (store.integer? dictionary key).map fun value => (Number.clamp 0 greatest value).toNat

def read (store : ObjectStore) (dictionary : Dictionary) : ImageMetadata where
  width := (count? store dictionary "Width" (Nat.pow 2 32 - 1)).getD 0
  height := (count? store dictionary "Height" (Nat.pow 2 32 - 1)).getD 0
  bits? := count? store dictionary "BitsPerComponent" 32
  spaceName? := ((dictionary.find? "ColorSpace").bind Object.name?).map Text.decodeUtf8
  isMask := ((dictionary.find? "ImageMask").bind Object.boolean?).getD false
  filter? := (filterNames store dictionary).getLast?.bind ImageFilter.ofName?

/-- The place of an image: from where the origin goes, as far as its pixels reach along each axis
at the scale of that axis. -/
def bounds {K : Type} [Scalar K] (metadata : ImageMetadata) (matrix : Matrix K) : Rect K :=
  .ofCorners matrix.e matrix.f (matrix.e + Scalar.ofInt metadata.width * matrix.a)
    (matrix.f + Scalar.ofInt metadata.height * matrix.d)

end ImageMetadata

end PdfElements
