import PdfElements.Color
import PdfElements.Filter.Stream

/-!
Color spaces: reading them from a document, and the color that components stand for in one.
-/

set_option autoImplicit false

namespace PdfElements

/-- What the components of a color mean. -/
inductive ColorSpace where
  | gray
  | rgb
  | cmyk
  /-- A color profile, read as the space that the document gives in its stead. -/
  | profile (components : Nat) (alternate : ColorSpace)
  | indexed (base : ColorSpace) (highest : Nat) (table : List UInt8)
  | separation (alternate : ColorSpace)
  | inks (components : Nat) (alternate : ColorSpace)
  | pattern
  /-- A pattern that takes its color from components of another space. -/
  | uncolored (underlying : ColorSpace)
  deriving DecidableEq, Repr

namespace ColorSpace

def components : ColorSpace → Nat
  | gray => 1
  | rgb => 3
  | cmyk => 4
  | profile components _ => components
  | indexed _ _ _ => 1
  | separation _ => 1
  | inks components _ => components
  | pattern => 0
  | uncolored underlying => underlying.components

def initial : ColorSpace → List Float32
  | cmyk => [0.0, 0.0, 0.0, 1.0]
  | separation _ => [1.0]
  | inks components _ => List.replicate components 1.0
  | pattern => []
  | uncolored _ => []
  | gray => [0.0]
  | rgb => [0.0, 0.0, 0.0]
  | profile components _ => List.replicate components 0.0
  | indexed _ _ _ => [0.0]

def limited (component : Float32) : Float32 :=
  if component < 0.0 then 0.0 else if 1.0 < component then 1.0 else component

def printed (cyan magenta yellow black : Float32) : Color :=
  let light := 1.0 - limited black
  .ofIntensities ((1.0 - limited cyan) * light) ((1.0 - limited magenta) * light)
    ((1.0 - limited yellow) * light)

/-- The color of an amount of ink: a shade of gray, whatever the ink. -/
def tint (amount : Float32) : ColorSpace → Color
  | cmyk => printed 0.0 0.0 0.0 amount
  | _ => .ofIntensities (1.0 - amount) (1.0 - amount) (1.0 - amount)

/-- The index that a component stands for. -/
def index (component : Float32) (highest : Nat) : Nat :=
  min (Number.roundSingleToInteger component).toUInt32.toNat highest

/-- The color of components; missing components are zero. -/
def toColor : ColorSpace → List Float32 → Color
  | gray, values =>
    let value := values[0]?.getD 0.0
    .ofIntensities value value value
  | rgb, values =>
    .ofIntensities (values[0]?.getD 0.0) (values[1]?.getD 0.0) (values[2]?.getD 0.0)
  | cmyk, values =>
    printed (values[0]?.getD 0.0) (values[1]?.getD 0.0) (values[2]?.getD 0.0)
      (values[3]?.getD 0.0)
  | profile _ alternate, values => alternate.toColor values
  | indexed base highest table, values =>
    let count := base.components
    let entry := (table.drop (index (values[0]?.getD 0.0) highest * count)).take count
    if entry.length = count then
      base.toColor (entry.map fun byte => byte.toFloat32 / 255.0)
    else .black
  | separation alternate, values => tint (values[0]?.getD 0.0) alternate
  | inks components alternate, values =>
    if alternate.components = components then alternate.toColor values
    else
      let darkest := values.foldl (fun most value => if most < value then value else most) 0.0
      tint darkest alternate
  | pattern, _ => .black
  | uncolored underlying, values =>
    if values.isEmpty then .black else underlying.toColor values

def initialColor (space : ColorSpace) : Color := space.toColor space.initial

/-- The space of a number of components when nothing else is known. -/
def ofCount : Nat → ColorSpace
  | 3 => rgb
  | 4 => cmyk
  | _ => gray

/-- The spaces that have names of their own, also in short and in calibrated form. -/
def device? (name : String) : Option ColorSpace :=
  if name = "DeviceGray" || name = "G" || name = "CalGray" then some gray
  else if name = "DeviceRGB" || name = "RGB" || name = "CalRGB" || name = "Lab" then some rgb
  else if name = "DeviceCMYK" || name = "CMYK" then some cmyk
  else none

def named? (name : String) : Option ColorSpace :=
  if name = "Pattern" then some pattern else device? name

/-- The table of an indexed space. Data that cannot be decoded stands for itself. -/
def table? : Object → Option (List UInt8)
  | .string value _ => some value
  | .stream entries data =>
    let stream : Stream := ⟨entries, data⟩
    match stream.decode with
    | .ok decoded => some decoded
    | .error _ => some data
  | _ => none

/-- What an object says of a space: all there is, or what becomes of the space that a part of it
describes, if the part describes one. -/
inductive Description where
  | whole (space? : Option ColorSpace)
  | within (part : Object) (complete : Option ColorSpace → Option ColorSpace)

/-- A space that depends on a part which may be missing. -/
def Description.ofPart (part? : Option Object) (complete : Option ColorSpace → Option ColorSpace) :
    Description :=
  match part? with
  | some part => within part complete
  | none => whole (complete none)

/-- What an array says of a space. Its first item is the family, and each family has at most one
space inside. -/
def describeArray (store : ObjectStore) (items : List Object) : Description :=
  match (items.head?.bind Object.name?).map Text.decodeUtf8 with
  | none => .whole none
  | some family =>
    if family = "ICCBased" then
      match (items[1]?.map store.resolve).bind Object.stream? with
      | none => .whole none
      | some stream =>
        let components := match (stream.entries.find? "N").bind Object.integer? with
          | some count => (Number.clamp 1 4 count).toNat
          | none => 3
        .ofPart (stream.entries.find? "Alternate") fun alternate? =>
          some (profile components (alternate?.getD (ofCount components)))
    else if family = "Indexed" || family = "I" then
      if items.length < 4 then .whole none
      else
        .ofPart items[1]? fun base? => do
          let highest ← (items[2]?.map store.resolve).bind Object.integer?
          let table ← (items[3]?.map store.resolve).bind table?
          return indexed (base?.getD rgb) (Number.clamp 0 255 highest).toNat table
    else if family = "Separation" then
      .ofPart items[2]? fun alternate? => some (separation (alternate?.getD cmyk))
    else if family = "DeviceN" then
      match (items[1]?.map store.resolve).bind Object.array? with
      | none => .whole none
      | some names =>
        .ofPart items[2]? fun alternate? => some (inks names.length (alternate?.getD cmyk))
    else if family = "Pattern" then
      .ofPart items[1]? fun underlying? => some ((underlying?.map uncolored).getD pattern)
    else .whole (device? family)

def describe (store : ObjectStore) (object : Object) : Description :=
  match store.resolve object with
  | .name name => .whole (named? (Text.decodeUtf8 name))
  | .array items => describeArray store items
  | _ => .whole none

/-- Reads the space that an object describes, if it describes one. There is no limit to how many
spaces are inside each other, and no result when they never end. -/
def read (store : ObjectStore) (o : Object) : Option (Option ColorSpace) :=
  match describe store o with
  | .whole space? => some space?
  | .within part complete => (read (o := part)) store >>= fun inner? => some (complete inner?)
partial_fixpoint

/-- Reads the space of a name: one of its own, or what the resources give the name. -/
def readName (store : ObjectStore) (resources : Dictionary) (name : String) :
    Option (Option ColorSpace) :=
  match named? name with
  | some space => some (some space)
  | none =>
    let spaces? := store.dictionary? resources "ColorSpace"
    match spaces?.bind fun spaces => spaces.find? name with
    | some object => read store object
    | none => some none

end ColorSpace

end PdfElements
