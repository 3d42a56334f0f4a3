import PdfElements.Font.Name

/-!
Widths of the standard fonts, which documents may name without giving any. They are in thousandths
and cover the printable ASCII characters.
-/

set_option autoImplicit false

namespace PdfElements

structure StandardFont where
  name : String
  /-- Widths from the space on; none when all characters are equally wide. -/
  widths? : Option (Array Nat)
  deriving DecidableEq, Repr

namespace StandardFont

def helveticaWidths : Array Nat := #[
  278, 278, 355, 556, 556, 889, 667, 191, 333, 333, 389, 584, 278, 333, 278, 278, 556, 556, 556,
  556, 556, 556, 556, 556, 556, 556, 278, 278, 584, 584, 584, 556, 1015, 667, 667, 722, 722, 667,
  611, 778, 722, 278, 500, 667, 556, 833, 722, 778, 667, 778, 722, 667, 611, 722, 667, 944, 667,
  667, 611, 278, 278, 278, 469, 556, 333, 556, 556, 500, 556, 556, 278, 556, 556, 222, 222, 500,
  222, 833, 556, 556, 556, 556, 333, 500, 278, 556, 500, 722, 500, 500, 500, 334, 260, 334, 584]

def helveticaBoldWidths : Array Nat := #[
  278, 333, 474, 556, 556, 889, 722, 238, 333, 333, 389, 584, 278, 333, 278, 278, 556, 556, 556,
  556, 556, 556, 556, 556, 556, 556, 333, 333, 584, 584, 584, 611, 975, 722, 722, 722, 722, 667,
  611, 778, 722, 278, 556, 722, 611, 833, 722, 778, 667, 778, 722, 667, 611, 722, 667, 944, 667,
  667, 611, 333, 278, 333, 584, 556, 333, 556, 611, 556, 611, 556, 333, 611, 611, 278, 278, 556,
  278, 889, 611, 611, 611, 611, 389, 556, 333, 611, 556, 778, 556, 556, 500, 389, 280, 389, 584]

def timesRomanWidths : Array Nat := #[
  250, 333, 408, 500, 500, 833, 778, 180, 333, 333, 500, 564, 250, 333, 250, 278, 500, 500, 500,
  500, 500, 500, 500, 500, 500, 500, 278, 278, 564, 564, 564, 444, 921, 722, 667, 667, 722, 611,
  556, 722, 722, 333, 389, 722, 611, 889, 722, 722, 556, 722, 667, 556, 611, 722, 722, 944, 722,
  722, 611, 333, 278, 333, 469, 500, 333, 444, 500, 444, 500, 444, 333, 500, 500, 278, 278, 500,
  278, 778, 500, 500, 500, 500, 333, 389, 278, 500, 500, 722, 500, 500, 444, 480, 200, 480, 541]

def timesBoldWidths : Array Nat := #[
  250, 333, 555, 500, 500, 1000, 833, 278, 333, 333, 500, 570, 250, 333, 250, 278, 500, 500, 500,
  500, 500, 500, 500, 500, 500, 500, 333, 333, 570, 570, 570, 500, 930, 722, 667, 722, 722, 667,
  611, 778, 778, 389, 500, 778, 667, 944, 722, 778, 611, 778, 722, 556, 667, 722, 722, 1000, 722,
  722, 667, 333, 278, 333, 581, 500, 333, 500, 556, 444, 556, 444, 333, 500, 556, 278, 333, 556,
  278, 833, 556, 500, 556, 556, 444, 389, 333, 556, 500, 722, 500, 500, 444, 394, 220, 394, 520]

def fixedWidth : Nat := 600

def isFixedPitch (font : StandardFont) : Bool := font.widths?.isNone

def width? (font : StandardFont) (byte : UInt8) : Option Nat :=
  match font.widths? with
  | none => some fixedWidth
  | some widths =>
    if 32 ≤ byte.toNat && byte.toNat ≤ 126 then widths[byte.toNat - 32]? else none

def courier : StandardFont := ⟨"Courier", none⟩

def helvetica : StandardFont := ⟨"Helvetica", some helveticaWidths⟩

def helveticaBold : StandardFont := ⟨"Helvetica-Bold", some helveticaBoldWidths⟩

def timesRoman : StandardFont := ⟨"Times-Roman", some timesRomanWidths⟩

def timesBold : StandardFont := ⟨"Times-Bold", some timesBoldWidths⟩

/-- The standard font that a name refers to, by itself or by a common alias. Subset tags do not
matter, and of the style behind a comma or a hyphen only whether it is bold. -/
def ofName? (name : String) : Option StandardFont :=
  let rest := FontName.withoutSubsetTag name.toList
  let (family, style) := match Text.splitOnce? (fun c => c == ',' || c == '-') rest with
    | some (family, style) => (family, style)
    | none => (rest, [])
  let bold := Text.occursIn "bold".toList (style.map Char.toLower)
  let family := String.ofList (family.map Char.toLower)
  if ["helvetica", "arial", "arialmt"].contains family then
    some (if bold then helveticaBold else helvetica)
  else if ["times", "timesnewroman", "timesnewromanpsmt", "timesnewromanps"].contains family then
    some (if bold then timesBold else timesRoman)
  else if ["courier", "couriernew", "couriernewpsmt"].contains family then some courier
  else none

end StandardFont

end PdfElements
