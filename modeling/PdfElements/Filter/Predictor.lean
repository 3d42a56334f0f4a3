/-!
Rows of samples that were replaced by their differences to samples nearby. Every row begins with a
byte that says how.
-/

set_option autoImplicit false

namespace PdfElements.Filter.Predictor

inductive Fault where
  | unknownType (type : UInt8)
  /-- The last row is too short. -/
  | shortRow
  deriving DecidableEq, Repr

def Fault.message : Fault → String
  | .unknownType type => "invalid PNG filter type (" ++ toString type.toNat ++ ")"
  | .shortRow => "failed to fill whole buffer"

/-- Of the three neighbours, the one nearest to `left + above - corner`. -/
def paeth (left above corner : UInt8) : UInt8 :=
  let estimate : Int := left.toNat + above.toNat - corner.toNat
  let toLeft := (estimate - left.toNat).natAbs
  let toAbove := (estimate - above.toNat).natAbs
  let toCorner := (estimate - corner.toNat).natAbs
  if toLeft ≤ toAbove && toLeft ≤ toCorner then left
  else if toAbove ≤ toCorner then above
  else corner

inductive RowType where
  | none
  | sub
  | up
  | average
  | paeth
  deriving DecidableEq, Repr

def RowType.of? (byte : UInt8) : Option RowType :=
  match byte.toNat with
  | 0 => some .none
  | 1 => some .sub
  | 2 => some .up
  | 3 => some .average
  | 4 => some .paeth
  | _ => Option.none

/-- A restored byte. The bytes to the left are missing in the first pixel; the average halves only
the byte above when there is one to the left. -/
def RowType.restore (type : RowType) (byte above : UInt8) (left? corner? : Option UInt8) : UInt8 :=
  match type with
  | .none => byte
  | .sub => byte + left?.getD 0
  | .up => byte + above
  | .average => byte + (left?.getD 0 + above / 2)
  | .paeth => byte + Predictor.paeth (left?.getD 0) above (corner?.getD 0)

def restoreRow (type : RowType) (pixel : Nat) (above : Array UInt8) :
    Array UInt8 → List UInt8 → Array UInt8
  | row, [] => row
  | row, byte :: rest =>
    let place := row.size
    let left? := if pixel ≤ place then row[place - pixel]? else none
    let corner? := if pixel ≤ place then above[place - pixel]? else none
    restoreRow type pixel above
      (row.push (type.restore byte ((above[place]?).getD 0) left? corner?)) rest

def restoreRows (pixel width : Nat) : (rows : Nat) → Array UInt8 → List UInt8 →
    Except Fault (List UInt8)
  | 0, _, _ => .ok []
  | _, _, [] => .ok []
  | rows + 1, above, tag :: bytes =>
    match RowType.of? tag with
    | none => .error (.unknownType tag)
    | some type =>
      let samples := bytes.take width
      if samples.length < width then .error .shortRow
      else do
        let row := restoreRow type pixel above #[] samples
        return row.toList ++ (← restoreRows pixel width rows row (bytes.drop width))

/-- The samples of rows with the given number of columns, where a pixel has `pixel` bytes. -/
def decode (pixel columns : Nat) (bytes : List UInt8) : Except Fault (List UInt8) :=
  let width := columns * pixel
  restoreRows pixel width bytes.length #[] bytes

end PdfElements.Filter.Predictor
