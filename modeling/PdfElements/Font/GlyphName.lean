import PdfElements.Text.Utf16

/-!
The text that glyph names stand for. A name may have a variant suffix after a point and may join
several components with underscores; a component is a known name, a letter, or code units or a
code point in hexadecimal digits.
-/

set_option autoImplicit false

namespace PdfElements.GlyphName

def table : List (String × Char) := [
  ("space", ' '), ("nbspace", ' '), ("exclam", '!'), ("quotedbl", '"'), ("numbersign", '#'),
  ("dollar", '$'), ("percent", '%'), ("ampersand", '&'), ("quotesingle", '\''),
  ("parenleft", '('), ("parenright", ')'), ("asterisk", '*'), ("plus", '+'), ("comma", ','),
  ("hyphen", '-'), ("sfthyphen", '-'), ("period", '.'), ("slash", '/'), ("zero", '0'),
  ("one", '1'), ("two", '2'), ("three", '3'), ("four", '4'), ("five", '5'), ("six", '6'),
  ("seven", '7'), ("eight", '8'), ("nine", '9'), ("colon", ':'), ("semicolon", ';'),
  ("less", '<'), ("equal", '='), ("greater", '>'), ("question", '?'), ("at", '@'),
  ("bracketleft", '['), ("backslash", '\\'), ("bracketright", ']'), ("asciicircum", '^'),
  ("underscore", '_'), ("grave", '`'), ("braceleft", '{'), ("bar", '|'), ("braceright", '}'),
  ("asciitilde", '~'), ("quoteleft", '\u2018'), ("quoteright", '\u2019'),
  ("quotedblleft", '\u201c'), ("quotedblright", '\u201d'), ("quotesinglbase", '\u201a'),
  ("quotedblbase", '\u201e'), ("guillemotleft", '\u00ab'), ("guillemotright", '\u00bb'),
  ("guilsinglleft", '\u2039'), ("guilsinglright", '\u203a'), ("bullet", '\u2022'),
  ("endash", '\u2013'), ("emdash", '\u2014'), ("ellipsis", '\u2026'), ("dagger", '\u2020'),
  ("daggerdbl", '\u2021'), ("perthousand", '\u2030'), ("trademark", '\u2122'),
  ("copyright", '\u00a9'), ("registered", '\u00ae'), ("degree", '\u00b0'), ("section", '\u00a7'),
  ("paragraph", '\u00b6'), ("periodcentered", '\u00b7'), ("fraction", '\u2044'),
  ("minus", '\u2212'), ("multiply", '\u00d7'), ("divide", '\u00f7'), ("plusminus", '\u00b1'),
  ("Euro", '\u20ac'), ("cent", '\u00a2'), ("sterling", '\u00a3'), ("yen", '\u00a5'),
  ("florin", '\u0192'), ("currency", '\u00a4'), ("exclamdown", '\u00a1'),
  ("questiondown", '\u00bf'), ("ordfeminine", '\u00aa'), ("ordmasculine", '\u00ba'),
  ("mu", '\u00b5'), ("fi", '\ufb01'), ("fl", '\ufb02'), ("ff", '\ufb00'), ("ffi", '\ufb03'),
  ("ffl", '\ufb04'), ("germandbls", '\u00df'), ("dotlessi", '\u0131'), ("AE", '\u00c6'),
  ("ae", '\u00e6'), ("OE", '\u0152'), ("oe", '\u0153'), ("Oslash", '\u00d8'),
  ("oslash", '\u00f8'), ("Lslash", '\u0141'), ("lslash", '\u0142'), ("Agrave", '\u00c0'),
  ("Aacute", '\u00c1'), ("Acircumflex", '\u00c2'), ("Atilde", '\u00c3'), ("Adieresis", '\u00c4'),
  ("Aring", '\u00c5'), ("Ccedilla", '\u00c7'), ("Egrave", '\u00c8'), ("Eacute", '\u00c9'),
  ("Ecircumflex", '\u00ca'), ("Edieresis", '\u00cb'), ("Iacute", '\u00cd'), ("Ntilde", '\u00d1'),
  ("Oacute", '\u00d3'), ("Ocircumflex", '\u00d4'), ("Odieresis", '\u00d6'), ("Uacute", '\u00da'),
  ("Udieresis", '\u00dc'), ("agrave", '\u00e0'), ("aacute", '\u00e1'), ("acircumflex", '\u00e2'),
  ("atilde", '\u00e3'), ("adieresis", '\u00e4'), ("aring", '\u00e5'), ("ccedilla", '\u00e7'),
  ("egrave", '\u00e8'), ("eacute", '\u00e9'), ("ecircumflex", '\u00ea'), ("edieresis", '\u00eb'),
  ("iacute", '\u00ed'), ("icircumflex", '\u00ee'), ("idieresis", '\u00ef'), ("ntilde", '\u00f1'),
  ("oacute", '\u00f3'), ("ocircumflex", '\u00f4'), ("odieresis", '\u00f6'), ("uacute", '\u00fa'),
  ("ucircumflex", '\u00fb'), ("udieresis", '\u00fc')]

def isHexDigit (character : Char) : Bool :=
  character.isDigit || ('a' ≤ character && character ≤ 'f') || ('A' ≤ character && character ≤ 'F')

def hexValue (character : Char) : Nat :=
  if character.isDigit then character.toNat - 48
  else if 'a' ≤ character then character.toNat - 87
  else character.toNat - 55

def hexNumber (digits : List Char) : Nat :=
  digits.foldl (fun value digit => value * 16 + hexValue digit) 0

def units : List Char → List UInt16
  | first :: second :: third :: fourth :: rest =>
    (hexNumber [first, second, third, fourth]).toUInt16 :: units rest
  | _ => []

/-- The character of a code point; none for surrogates and beyond the last one. -/
def character? (code : Nat) : Option Char :=
  if code.isValidChar then some (Char.ofNat code) else none

def unitDigits? (component : List Char) : Option (List Char) :=
  match component with
  | 'u' :: 'n' :: 'i' :: digits =>
    if 4 ≤ digits.length && digits.length % 4 = 0 && digits.all isHexDigit then some digits
    else none
  | _ => none

/-- A code point behind `u`, of four to six digits. -/
def pointDigits? (component : List Char) : Option (List Char) :=
  match component with
  | 'u' :: digits =>
    if 4 ≤ digits.length && digits.length ≤ 6 && digits.all isHexDigit then some digits else none
  | _ => none

def componentText? (component : List Char) : Option (List Char) :=
  match unitDigits? component, pointDigits? component, component with
  | some digits, _, _ => some (Text.unitChars (units digits))
  | none, some digits, _ => (character? (hexNumber digits)).map ([·])
  | none, none, [letter] => if letter.isAlpha then some [letter] else none
  | none, none, component =>
    (table.find? fun entry => entry.1.toList == component).map fun entry => [entry.2]

def split (separator : Char) : List Char → List (List Char)
  | [] => [[]]
  | character :: rest =>
    if character = separator then [] :: split separator rest
    else
      match split separator rest with
      | [] => [[character]]
      | first :: others => (character :: first) :: others

/-- The text of a glyph name; none when any component has none. -/
def text? (name : String) : Option String := do
  let base := name.toList.takeWhile (· != '.')
  let texts ← (split '_' base).mapM componentText?
  return String.ofList texts.flatten

end PdfElements.GlyphName
