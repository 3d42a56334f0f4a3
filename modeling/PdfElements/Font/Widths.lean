import PdfElements.Font.Standard
import PdfElements.Object.Store

/-!
Advance widths of glyphs, in the units of the font.
-/

set_option autoImplicit false

namespace PdfElements

structure SimpleWidths (K : Type) where
  /-- The code of the first width. -/
  first : Nat
  widths : List K
  /-- The width of codes that have none. -/
  missing? : Option K
  /-- The font whose widths count when the document gives none. -/
  standard? : Option StandardFont

namespace SimpleWidths

variable {K : Type} [Scalar K]

def read (store : ObjectStore) (font : Dictionary) (descriptor? : Option Dictionary) :
    SimpleWidths K :=
  let first : Option K := store.number? font "FirstChar"
  { first := match first with
      | some code => Scalar.toCode code
      | none => 0
    widths := ((store.array? font "Widths").getD []).map fun item =>
      (store.numberOf? item).getD (Scalar.ofInt 0)
    missing? := descriptor?.bind fun descriptor => store.number? descriptor "MissingWidth"
    standard? := ((font.find? "BaseFont").bind Object.name?).bind fun name =>
      StandardFont.ofName? (Text.decodeUtf8 name) }

/-- The width of a byte: from the list, else that of the standard font if there is no list, else
the one for missing widths, else `substitute`. -/
def width (widths : SimpleWidths K) (byte : UInt8) (substitute : K) : K :=
  let listed? :=
    if widths.first ≤ byte.toNat then widths.widths[byte.toNat - widths.first]? else none
  let standard? :=
    if widths.widths.isEmpty then
      (widths.standard?.bind fun font => font.width? byte).map fun width =>
        (Scalar.ofInt width : K)
    else none
  ((listed?.or standard?).or widths.missing?).getD substitute

end SimpleWidths

inductive WidthEntry (K : Type) where
  /-- Successive codes, each with a width of its own or none. -/
  | listed (first : Nat) (widths : List (Option K))
  /-- All codes from `first` to `last` have one width. -/
  | run (first last : Nat) (width : K)

namespace WidthEntry

variable {K : Type}

def codeLimit : Nat := Nat.pow 2 32

def width? (entry : WidthEntry K) (code : Nat) : Option K :=
  match entry with
  | listed first widths =>
    if first ≤ code && code < codeLimit then (widths[code - first]?).join else none
  | run first last width => if first ≤ code && code ≤ last then some width else none

variable [Scalar K]

def code? (store : ObjectStore) (object : Object) : Option Nat :=
  let number : Option K := store.numberOf? object
  number.map Scalar.toCode

def ofRange? (store : ObjectStore) (first : Nat) (last width : Object) : Option (WidthEntry K) := do
  let last ← code? (K := K) store last
  let width ← store.numberOf? width
  return run first (min last (min (first + 0xFFFF) (codeLimit - 1))) width

/-- The entries of an array, in reverse: a code and a list of widths, or two codes and a width.
Objects that are no codes are skipped. -/
def readFrom (store : ObjectStore) (reversed : List (WidthEntry K)) :
    List Object → List (WidthEntry K)
  | [] => reversed
  | [_] => reversed
  | object :: second :: rest =>
    match code? (K := K) store object with
    | none => readFrom store reversed (second :: rest)
    | some first =>
      match store.resolve second with
      | .array items =>
        readFrom store (.listed first (items.map store.numberOf?) :: reversed) rest
      | last =>
        match rest with
        | [] => reversed
        | third :: rest =>
          match ofRange? store first last third with
          | some entry => readFrom store (entry :: reversed) rest
          | none => readFrom store reversed rest

end WidthEntry

/-- The widths of a composite font, the latest entry first; a later entry hides earlier ones. -/
structure CompositeWidths (K : Type) where
  entries : List (WidthEntry K)
  /-- The width of codes that have none. -/
  standard : K

namespace CompositeWidths

variable {K : Type} [Scalar K]

def read (store : ObjectStore) (descendant? : Option Dictionary) : CompositeWidths K :=
  let descendant := descendant?.getD []
  { entries := WidthEntry.readFrom store [] ((store.array? descendant "W").getD [])
    standard := (store.number? descendant "DW").getD (Scalar.ofInt 1000) }

def width (widths : CompositeWidths K) (code : Nat) : K :=
  (widths.entries.findSome? fun entry => entry.width? code).getD widths.standard

end CompositeWidths

end PdfElements
