import PdfElements.Text.Blank
import PdfElements.Text.Case

/-!
Font names. A name may begin with a subset tag and may end with a style after a hyphen or a comma;
the family stands between.
-/

set_option autoImplicit false

namespace PdfElements

/-- Whether the characters of `part` occur in a row. -/
def Text.occursIn (part : List Char) : List Char → Bool
  | [] => part.isEmpty
  | character :: rest => part.isPrefixOf (character :: rest) || occursIn part rest

/-- The characters before and after the first one that satisfies the test. -/
def Text.splitOnce? (test : Char → Bool) (text : List Char) : Option (List Char × List Char) :=
  match text.dropWhile (!test ·) with
  | [] => none
  | _ :: rest => some (text.takeWhile (!test ·), rest)

namespace FontName

/-- The name without a subset tag: six capital letters and a plus sign. -/
def withoutSubsetTag (name : List Char) : List Char :=
  match Text.splitOnce? (· == '+') name with
  | some (tag, rest) => if tag.length = 6 && tag.all Char.isUpper then rest else name
  | none => name

/-- The family in lower case, without subset tag and style. -/
def family (name : String) : String :=
  let rest := withoutSubsetTag name.toList
  let family := rest.takeWhile fun character => character != '-' && character != ','
  Text.lowercase (Text.trim (String.ofList family))

def impliesBold (name : String) : Bool :=
  ["bold", "black", "heavy", "semibold", "demi"].any fun word =>
    Text.occursIn word.toList (Text.lowercase name).toList

def impliesItalic (name : String) : Bool :=
  ["italic", "oblique"].any fun word =>
    Text.occursIn word.toList (Text.lowercase name).toList

end FontName

/-- A font as it is reported. Fonts have no identifier; output numbers them. -/
structure Font where
  baseName : String
  name : String
  bold : Bool
  italic : Bool
  type3 : Bool
  deriving DecidableEq, Repr

def Font.ofBaseName (baseName : String) : Font where
  baseName
  name := FontName.family baseName
  bold := FontName.impliesBold baseName
  italic := FontName.impliesItalic baseName
  type3 := false

end PdfElements
