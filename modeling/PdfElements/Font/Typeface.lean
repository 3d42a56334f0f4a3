import PdfElements.Filter.Stream
import PdfElements.Font.CMap
import PdfElements.Font.Encoding
import PdfElements.Font.Widths
import PdfElements.Geometry.Matrix
import PdfElements.Object.Place

/-!
Fonts as text is shown with them: reading a font dictionary, and splitting a string into glyphs
with text and widths.
-/

set_option autoImplicit false

namespace PdfElements

structure Glyph (K : Type) where
  code : Nat
  length : Nat
  text : String
  width : K
  deriving DecidableEq, Repr

/-- Whether word spacing applies: only to a single byte 32. -/
def Glyph.isSpace {K : Type} (glyph : Glyph K) : Bool := glyph.length == 1 && glyph.code == 32

/-- Where the resources of a font's glyph procedures are. -/
inductive ResourceLocation where
  | object (id : ObjectId)
  | font (id : ObjectId)
  deriving DecidableEq, Repr

/-- The resources, unless they cannot be found. -/
def ResourceLocation.dictionary? (location : ResourceLocation) (store : ObjectStore) :
    Option (Located Dictionary) :=
  match location with
  | .object id => (store.dictionaryAt id).toOption
  | .font id => do
    let font ← (store.dictionaryAt id).toOption
    (← font.find? "Resources").as? Object.dictionary?

structure GlyphProcedures (K : Type) where
  /-- From the space of the procedures to text space. -/
  matrix : Matrix K
  /-- The procedures of bytes, the latest first. -/
  procedures : List (UInt8 × ObjectId)
  resources? : Option ResourceLocation

def GlyphProcedures.procedure? {K : Type} (glyphs : GlyphProcedures K) (code : Nat) :
    Option ObjectId :=
  (glyphs.procedures.find? fun entry => entry.1.toNat == code).map Prod.snd

inductive TypefaceKind (K : Type) where
  | simple (encoding : FontEncoding) (widths : SimpleWidths K)
  | composite (codeLength : Nat) (widths : CompositeWidths K)
  | drawn (encoding : FontEncoding) (widths : SimpleWidths K) (glyphs : GlyphProcedures K)

structure Typeface (K : Type) where
  font : Font
  kind : TypefaceKind K
  toUnicode? : Option CMap
  /-- Top of the glyphs in text space. -/
  ascent : K
  /-- Bottom of the glyphs in text space. -/
  descent : K

inductive FontFault where
  | notDictionary (object : Object)
  | matrixMissing
  | proceduresMissing

def FontFault.message : FontFault → String
  | .notDictionary object => "expected a font dictionary, got " ++ object.text
  | .matrixMissing => "Type3 font without a valid /FontMatrix"
  | .proceduresMissing => "Type3 font without /CharProcs"

def FontFault.toFailure (fault : FontFault) : Failure := .font fault.message

namespace Typeface

variable {K : Type} [Scalar K]

def cmap? (store : ObjectStore) (font : Dictionary) (key : String) : Option CMap := do
  let stream ← store.stream? font key
  let bytes ← stream.decode.toOption
  (CMap.parse bytes).toOption

def descendant? (store : ObjectStore) (font : Dictionary) : Option Dictionary := do
  let items ← store.array? font "DescendantFonts"
  (store.resolve (← items.head?)).dictionary?

def hasFlag (flags : K) (bit : Nat) : Bool := Scalar.truncate flags / Nat.pow 2 bit % 2 = 1

def descriptorNumber? (store : ObjectStore) (descriptor? : Option Dictionary) (key : String) :
    Option K :=
  descriptor?.bind fun descriptor => store.number? descriptor key

def styled (store : ObjectStore) (descriptor? : Option Dictionary) (font : Font) : Font :=
  let number (key : String) : K :=
    (descriptorNumber? store descriptor? key).getD (Scalar.ofInt 0)
  { font with
    bold := font.bold || Scalar.ofInt 700 ≤ number "FontWeight" || hasFlag (number "Flags") 18
    italic := font.italic || hasFlag (number "Flags") 6 ||
      number "ItalicAngle" != Scalar.ofInt 0 }

/-- Ascent and descent in a descriptor, when the first is above the second. -/
def verticalExtent? (store : ObjectStore) (descriptor? : Option Dictionary) : Option (K × K) := do
  let ascent := Scalar.thousandth (← descriptorNumber? store descriptor? "Ascent")
  let descent :=
    Scalar.thousandth ((descriptorNumber? store descriptor? "Descent").getD (Scalar.ofInt 0))
  if descent < ascent then some (ascent, descent) else none

/-- How long the codes of a composite font are: as the embedded encoding says, else the map to
text, else two bytes. -/
def codeLength (store : ObjectStore) (font : Dictionary) (toUnicode? : Option CMap) : Nat :=
  let embedded? := (cmap? store font "Encoding").bind CMap.codeLength?
  match embedded?.or (toUnicode?.bind CMap.codeLength?) with
  | some length => if 1 ≤ length && length ≤ 4 then length else 2
  | none => 2

/-- The procedures of the bytes that the differences of the encoding name. -/
def procedures (store : ObjectStore) (font drawings : Dictionary) : List (UInt8 × ObjectId) :=
  let encoding := (store.dictionary? font "Encoding").getD []
  let named := FontEncoding.differenceNames none ((store.array? encoding "Differences").getD [])
  named.foldl
    (fun found (byte, name) =>
      match (drawings.find? name).bind Object.reference? with
      | some id => (byte, id) :: found
      | none => found) []

def glyphProcedures (store : ObjectStore) (font : Dictionary) (id? : Option ObjectId) :
    Except FontFault (GlyphProcedures K) := do
  let numbers := ((store.array? font "FontMatrix").getD []).filterMap store.numberOf?
  let some matrix := Matrix.ofList? numbers | .error .matrixMissing
  let some drawings := store.dictionary? font "CharProcs" | .error .proceduresMissing
  let resources? := match font.find? "Resources" with
    | some (.reference id) => some (ResourceLocation.object id)
    | some (.dictionary _) => id?.map .font
    | _ => none
  return ⟨matrix, procedures store font drawings, resources?⟩

/-- Reads a font dictionary. `id?` is its number, if it has one; `resourceName` names the font when
it has no name of its own. -/
def read (store : ObjectStore) (dictionary : Dictionary) (id? : Option ObjectId)
    (resourceName : String) : Except FontFault (Typeface K) := do
  let subtype := ((dictionary.find? "Subtype").bind Object.name?).map Text.decodeUtf8
  let baseName := match (dictionary.find? "BaseFont").bind Object.name? with
    | some name => Text.decodeUtf8 name
    | none => resourceName
  let descendant? := if subtype = some "Type0" then descendant? store dictionary else none
  let descriptor? := store.dictionary? (descendant?.getD dictionary) "FontDescriptor"
  let toUnicode? := (cmap? store dictionary "ToUnicode").filter fun map => !map.isEmpty
  let font := styled (K := K) store descriptor? (.ofBaseName baseName)
  let extent : K × K :=
    (verticalExtent? store descriptor?).getD (Scalar.ofInt 1, Scalar.ofInt 0)
  if subtype = some "Type0" then
    let kind := TypefaceKind.composite (codeLength store dictionary toUnicode?)
      (CompositeWidths.read store descendant?)
    return ⟨font, kind, toUnicode?, extent.1, extent.2⟩
  else if subtype = some "Type3" then
    let glyphs ← glyphProcedures store dictionary id?
    let encoding := FontEncoding.ofObject store .standard (dictionary.find? "Encoding")
    let kind := TypefaceKind.drawn encoding (SimpleWidths.read store dictionary none) glyphs
    return ⟨{ font with type3 := true }, kind, toUnicode?, Scalar.ofInt 1, Scalar.ofInt 0⟩
  else
    let flags : K := (descriptorNumber? store descriptor? "Flags").getD (Scalar.ofInt 0)
    let base := if hasFlag flags 2 then BaseEncoding.standard else .winAnsi
    let encoding := FontEncoding.ofObject store base (dictionary.find? "Encoding")
    let kind := TypefaceKind.simple encoding (SimpleWidths.read store dictionary descriptor?)
    return ⟨font, kind, toUnicode?, extent.1, extent.2⟩

omit [Scalar K] in
def glyphs? (typeface : Typeface K) : Option (GlyphProcedures K) :=
  match typeface.kind with
  | .drawn _ _ glyphs => some glyphs
  | _ => none

omit [Scalar K] in
/-- The text of a code: from the map to text, else from the encoding, else a replacement. -/
def text (typeface : Typeface K) (code : Nat) (encoding? : Option FontEncoding) : String :=
  match typeface.toUnicode?.bind fun map => map.text? code with
  | some text => text
  | none =>
    let encoded? := if code < 256 then encoding?.bind fun e => e.text? code.toUInt8 else none
    encoded?.getD Text.replacement.toString

def byteGlyph (typeface : Typeface K) (encoding : FontEncoding) (byte : UInt8) (width : K) :
    Glyph K :=
  ⟨byte.toNat, 1, typeface.text byte.toNat (some encoding), width⟩

/-- Pieces of `size` bytes, of which the last may be shorter. -/
def chunks (size : Nat) : (fuel : Nat) → List UInt8 → List (List UInt8)
  | 0, _ => []
  | _ + 1, [] => []
  | fuel + 1, bytes => bytes.take size :: chunks size fuel (bytes.drop size)

def codeGlyph (typeface : Typeface K) (widths : CompositeWidths K) (bytes : List UInt8) :
    Glyph K :=
  let code := bytes.foldl (fun code byte => code * 256 + byte.toNat) 0
  ⟨code, bytes.length, typeface.text code none, Scalar.thousandth (widths.width code)⟩

def decode (typeface : Typeface K) (bytes : List UInt8) : List (Glyph K) :=
  match typeface.kind with
  | .composite codeLength widths =>
    (chunks codeLength bytes.length bytes).map (typeface.codeGlyph widths)
  | .simple encoding widths =>
    bytes.map fun byte =>
      typeface.byteGlyph encoding byte
        (Scalar.thousandth (widths.width byte (Scalar.ofInt 600)))
  | .drawn encoding widths glyphs =>
    bytes.map fun byte =>
      typeface.byteGlyph encoding byte (widths.width byte (Scalar.ofInt 0) * glyphs.matrix.a)

end Typeface

end PdfElements
