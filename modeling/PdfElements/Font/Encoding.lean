import PdfElements.Font.GlyphName
import PdfElements.Object.Store

/-!
Encodings of simple fonts: a base encoding in which single bytes stand for characters, and
differences that give some bytes glyph names instead.
-/

set_option autoImplicit false

namespace PdfElements

inductive BaseEncoding where
  | standard
  | winAnsi
  | macRoman
  deriving DecidableEq, Repr

namespace BaseEncoding

/-- Where the standard encoding leaves ASCII, and its upper half. -/
def standardTable : List (Nat × Char) := [
  (0x27, '\u2019'), (0x60, '\u2018'), (0xA1, '\u00a1'), (0xA2, '\u00a2'), (0xA3, '\u00a3'),
  (0xA4, '\u2044'), (0xA5, '\u00a5'), (0xA6, '\u0192'), (0xA7, '\u00a7'), (0xA8, '\u00a4'),
  (0xA9, '\''), (0xAA, '\u201c'), (0xAB, '\u00ab'), (0xAC, '\u2039'), (0xAD, '\u203a'),
  (0xAE, '\ufb01'), (0xAF, '\ufb02'), (0xB1, '\u2013'), (0xB2, '\u2020'), (0xB3, '\u2021'),
  (0xB4, '\u00b7'), (0xB6, '\u00b6'), (0xB7, '\u2022'), (0xB8, '\u201a'), (0xB9, '\u201e'),
  (0xBA, '\u201d'), (0xBB, '\u00bb'), (0xBC, '\u2026'), (0xBD, '\u2030'), (0xBF, '\u00bf'),
  (0xC1, '`'), (0xC2, '\u00b4'), (0xC3, '\u02c6'), (0xC4, '\u02dc'), (0xC5, '\u00af'),
  (0xC8, '\u00a8'), (0xD0, '\u2014'), (0xE1, '\u00c6'), (0xE3, '\u00aa'), (0xE8, '\u0141'),
  (0xE9, '\u00d8'), (0xEA, '\u0152'), (0xEB, '\u00ba'), (0xF1, '\u00e6'), (0xF5, '\u0131'),
  (0xF8, '\u0142'), (0xF9, '\u00f8'), (0xFA, '\u0153'), (0xFB, '\u00df')]

/-- The bytes from 0x80 to 0x9F in the Windows encoding; above, bytes are code points. -/
def winAnsiTable : List Char := [
  '\u20ac', '\u0081', '\u201a', '\u0192', '\u201e', '\u2026', '\u2020', '\u2021', '\u02c6',
  '\u2030', '\u0160', '\u2039', '\u0152', '\u008d', '\u017d', '\u008f', '\u0090', '\u2018',
  '\u2019', '\u201c', '\u201d', '\u2022', '\u2013', '\u2014', '\u02dc', '\u2122', '\u0161',
  '\u203a', '\u0153', '\u009d', '\u017e', '\u0178']

def macRomanTable : List Char := [
  '\u00c4', '\u00c5', '\u00c7', '\u00c9', '\u00d1', '\u00d6', '\u00dc', '\u00e1', '\u00e0',
  '\u00e2', '\u00e4', '\u00e3', '\u00e5', '\u00e7', '\u00e9', '\u00e8', '\u00ea', '\u00eb',
  '\u00ed', '\u00ec', '\u00ee', '\u00ef', '\u00f1', '\u00f3', '\u00f2', '\u00f4', '\u00f6',
  '\u00f5', '\u00fa', '\u00f9', '\u00fb', '\u00fc', '\u2020', '\u00b0', '\u00a2', '\u00a3',
  '\u00a7', '\u2022', '\u00b6', '\u00df', '\u00ae', '\u00a9', '\u2122', '\u00b4', '\u00a8',
  '\u2260', '\u00c6', '\u00d8', '\u221e', '\u00b1', '\u2264', '\u2265', '\u00a5', '\u00b5',
  '\u2202', '\u2211', '\u220f', '\u03c0', '\u222b', '\u00aa', '\u00ba', '\u03a9', '\u00e6',
  '\u00f8', '\u00bf', '\u00a1', '\u00ac', '\u221a', '\u0192', '\u2248', '\u2206', '\u00ab',
  '\u00bb', '\u2026', '\u00a0', '\u00c0', '\u00c3', '\u00d5', '\u0152', '\u0153', '\u2013',
  '\u2014', '\u201c', '\u201d', '\u2018', '\u2019', '\u00f7', '\u25ca', '\u00ff', '\u0178',
  '\u2044', '\u20ac', '\u2039', '\u203a', '\ufb01', '\ufb02', '\u2021', '\u00b7', '\u201a',
  '\u201e', '\u2030', '\u00c2', '\u00ca', '\u00c1', '\u00cb', '\u00c8', '\u00cd', '\u00ce',
  '\u00cf', '\u00cc', '\u00d3', '\u00d4', '\uf8ff', '\u00d2', '\u00da', '\u00db', '\u00d9',
  '\u0131', '\u02c6', '\u02dc', '\u00af', '\u02d8', '\u02d9', '\u02da', '\u00b8', '\u02dd',
  '\u02db', '\u02c7']

/-- The encoding of a name. The expert set is read as the ordinary one. -/
def ofName? (name : List UInt8) : Option BaseEncoding :=
  let name := Text.decodeUtf8 name
  if name = "StandardEncoding" then some standard
  else if name = "WinAnsiEncoding" then some winAnsi
  else if name = "MacRomanEncoding" || name = "MacExpertEncoding" then some macRoman
  else none

def character? (encoding : BaseEncoding) (byte : UInt8) : Option Char :=
  let code := byte.toNat
  match encoding with
  | standard =>
    match standardTable.find? fun entry => entry.1 == code with
    | some (_, character) => some character
    | none => if 0x20 ≤ code && code ≤ 0x7E then some (Char.ofNat code) else none
  | winAnsi =>
    if code < 0x20 then none
    else if 0x80 ≤ code && code < 0xA0 then winAnsiTable[code - 0x80]?
    else some (Char.ofNat code)
  | macRoman =>
    if code < 0x20 then none
    else if 0x80 ≤ code then macRomanTable[code - 0x80]?
    else some (Char.ofNat code)

def text? (encoding : BaseEncoding) (byte : UInt8) : Option String :=
  (encoding.character? byte).map Char.toString

end BaseEncoding

/-- A base encoding and the texts of the bytes that differ from it, the latest first. -/
structure FontEncoding where
  base : BaseEncoding
  differences : List (UInt8 × String)
  deriving DecidableEq, Repr

namespace FontEncoding

/-- Pairs of bytes and glyph names: an integer gives the code of the name behind it, and further
names have successive codes. Names without a code, or with one beyond a byte, are left out. The
code has 32 bits. -/
def differenceNames (code? : Option Nat) : List Object → List (UInt8 × String)
  | [] => []
  | .integer value :: rest =>
    differenceNames (if 0 ≤ value && value < Nat.pow 2 32 then some value.toNat else none) rest
  | .name name :: rest =>
    match code? with
    | none => differenceNames none rest
    | some code =>
      let others := differenceNames (some ((code + 1) % Nat.pow 2 32)) rest
      if code < 256 then (code.toUInt8, Text.decodeUtf8 name) :: others else others
  | _ :: rest => differenceNames code? rest

/-- The encoding in which the named glyphs replace what their bytes stood for. Names that stand for
no text change nothing. -/
def withDifferences (encoding : FontEncoding) (items : List Object) : FontEncoding :=
  { encoding with
    differences := (differenceNames none items).foldl
      (fun differences (byte, name) =>
        match GlyphName.text? name with
        | some text => (byte, text) :: differences
        | none => differences)
      encoding.differences }

/-- The encoding that a font's entry describes: a name, or a dictionary with a base and
differences. -/
def ofObject (store : ObjectStore) (standardBase : BaseEncoding) (object? : Option Object) :
    FontEncoding :=
  match object?.map store.resolve with
  | some (.name name) => ⟨(BaseEncoding.ofName? name).getD standardBase, []⟩
  | some (.dictionary entries) =>
    let named? := (store.find? entries "BaseEncoding").bind Object.name?
    let base := (named?.bind BaseEncoding.ofName?).getD standardBase
    match store.array? entries "Differences" with
    | some items => withDifferences ⟨base, []⟩ items
    | none => ⟨base, []⟩
  | _ => ⟨standardBase, []⟩

def text? (encoding : FontEncoding) (byte : UInt8) : Option String :=
  match encoding.differences.find? fun entry => entry.1 == byte with
  | some (_, text) => some text
  | none => encoding.base.text? byte

end FontEncoding

end PdfElements
