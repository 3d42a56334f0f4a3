import PdfElements.Text.Ranges

/-!
White space, and text without the white space around it.
-/

set_option autoImplicit false

namespace PdfElements.Text

/-- The characters with the property White_Space. -/
def blankRanges : CodeRanges := #[
    (9, 13), (32, 32), (133, 133), (160, 160), (5760, 5760), (8192, 8202), (8232, 8233),
    (8239, 8239), (8287, 8287), (12288, 12288)]

def isBlank (character : Char) : Bool := blankRanges.holds character

def trim (text : String) : String :=
  let rest := text.toList.dropWhile isBlank
  String.ofList (rest.reverse.dropWhile isBlank).reverse

end PdfElements.Text
