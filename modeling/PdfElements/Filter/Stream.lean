import PdfElements.Filter.Ascii85
import PdfElements.Filter.Flate
import PdfElements.Filter.Lzw
import PdfElements.Filter.Predictor
import PdfElements.Object.Store

/-!
The data of a stream behind its filters.
-/

set_option autoImplicit false

namespace PdfElements

inductive FilterFault where
  | object (fault : ObjectFault)
  | ascii85 (fault : Filter.Ascii85.Fault)
  | predictor (fault : Filter.Predictor.Fault)
  | unsupported
  deriving DecidableEq, Repr

def FilterFault.message : FilterFault → String
  | .object fault => fault.message
  | .ascii85 fault => "couldn't decompress stream decoding ASCII85 failed: " ++ fault.message
  | .predictor fault => "IO error: " ++ fault.message
  | .unsupported => "missing feature of lopdf: decompression algorithms"

namespace Stream

def isFiltered (stream : Stream) : Bool := (stream.entries.find? "Filter").isSome

def filters (stream : Stream) : Except ObjectFault (List (List UInt8)) :=
  match stream.entries.find? "Filter" with
  | none => .ok []
  | some (.name name) => .ok [name]
  | some (.array items) => items.mapM fun item => item.expect .name item.name?
  | some object => .error (.wrongKind [.name, .array] object.kind)

/-- The parameters of the filters; they count only when written in place. -/
def parameters (stream : Stream) : Dictionary :=
  ((stream.entries.find? "DecodeParms").bind Object.dictionary?).getD []

def parameter? (parameters : Dictionary) (key : String) : Option Int :=
  (parameters.find? key).bind Object.integer?

/-- A parameter with a default, and at least `least`. -/
def parameterAtLeast (parameters : Dictionary) (key : String) (least : Int) : Nat :=
  (max least ((parameter? parameters key).getD least)).toNat

def unpredict (parameters : Dictionary) (data : List UInt8) : Except FilterFault (List UInt8) :=
  let predictor := (parameter? parameters "Predictor").getD 1
  if 10 ≤ predictor && predictor ≤ 15 then
    let columns := parameterAtLeast parameters "Columns" 1
    let colors := parameterAtLeast parameters "Colors" 1
    let bits := parameterAtLeast parameters "BitsPerComponent" 8
    (Filter.Predictor.decode (colors * bits / 8) columns data).mapError .predictor
  else .ok data

def undo (parameters : Dictionary) (filter : List UInt8) (data : List UInt8) :
    Except FilterFault (List UInt8) :=
  if filter = Text.encodeUtf8 "FlateDecode" then unpredict parameters (Filter.Flate.decode data)
  else if filter = Text.encodeUtf8 "LZWDecode" then
    let early := (parameter? parameters "EarlyChange").getD 1 != 0
    unpredict parameters (Filter.Lzw.decode early data)
  else if filter = Text.encodeUtf8 "ASCII85Decode" then
    (Filter.Ascii85.decode data).mapError .ascii85
  else .error .unsupported

/-- The data with all filters undone. An empty list of filters leaves nothing. -/
def unfiltered (stream : Stream) : Except FilterFault (List UInt8) := do
  match ← stream.filters.mapError FilterFault.object with
  | [] => return []
  | filters => filters.foldlM (fun data filter => undo stream.parameters filter data) stream.data

/-- The decoded data; data without filters stands for itself. -/
def decode (stream : Stream) : Except FilterFault (List UInt8) :=
  if stream.isFiltered then stream.unfiltered else .ok stream.data

end Stream

end PdfElements
