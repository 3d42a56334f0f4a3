/-!
The filters that image data may be encoded with, under their names and the abbreviations that
images within a content stream may use.
-/

set_option autoImplicit false

namespace PdfElements

inductive ImageFilter where
  | dct
  | flate
  | lzw
  | asciiHex
  | ascii85
  | runLength
  | fax
  | jbig2
  | jpx
  deriving DecidableEq, Repr

namespace ImageFilter

def all : List ImageFilter :=
  [dct, flate, lzw, asciiHex, ascii85, runLength, fax, jbig2, jpx]

def name : ImageFilter → String
  | dct => "DCTDecode"
  | flate => "FlateDecode"
  | lzw => "LZWDecode"
  | asciiHex => "ASCIIHexDecode"
  | ascii85 => "ASCII85Decode"
  | runLength => "RunLengthDecode"
  | fax => "CCITTFaxDecode"
  | jbig2 => "JBIG2Decode"
  | jpx => "JPXDecode"

def abbreviation? : ImageFilter → Option String
  | dct => some "DCT"
  | flate => some "Fl"
  | lzw => some "LZW"
  | asciiHex => some "AHx"
  | ascii85 => some "A85"
  | runLength => some "RL"
  | fax => some "CCF"
  | jbig2 => none
  | jpx => none

def ofName? (name : String) : Option ImageFilter :=
  all.find? fun filter => filter.name == name || filter.abbreviation? == some name

/-- Whether what the filter encodes is a picture and not plain samples. -/
def isPicture : ImageFilter → Bool
  | dct | fax | jbig2 | jpx => true
  | _ => false

end ImageFilter

end PdfElements
