/-!
The operators that have an effect on what is extracted.
-/

set_option autoImplicit false

namespace PdfElements

inductive Operator where
  | save
  | restore
  | concat
  | graphicsState
  | move
  | line
  | curve
  | curveFromCurrent
  | curveToTarget
  | closePath
  | rectangle
  | stroke
  | closeStroke
  | fill
  | fillObsolete
  | fillEvenOdd
  | fillStroke
  | fillStrokeEvenOdd
  | closeFillStroke
  | closeFillStrokeEvenOdd
  | endPath
  | clip
  | clipEvenOdd
  | beginText
  | endText
  | characterSpacing
  | wordSpacing
  | horizontalScaling
  | leading
  | rise
  | textMode
  | font
  | moveText
  | moveTextSetLeading
  | textMatrix
  | nextLine
  | showText
  | showAdjusted
  | showNextLine
  | showNextLineSpaced
  | glyphWidth
  | glyphBox
  | strokingSpace
  | fillingSpace
  | strokingColor
  | strokingColorOrPattern
  | fillingColor
  | fillingColorOrPattern
  | strokingGray
  | fillingGray
  | strokingRgb
  | fillingRgb
  | strokingCmyk
  | fillingCmyk
  | external
  /-- An image that is written into the content; its entries and its data are the operands. -/
  | inlineImage
  deriving DecidableEq, Repr

namespace Operator

def table : List (String × Operator) := [
  ("q", save), ("Q", restore), ("cm", concat), ("gs", graphicsState), ("m", move), ("l", line),
  ("c", curve), ("v", curveFromCurrent), ("y", curveToTarget), ("h", closePath),
  ("re", rectangle), ("S", stroke), ("s", closeStroke), ("f", fill), ("F", fillObsolete),
  ("f*", fillEvenOdd), ("B", fillStroke), ("B*", fillStrokeEvenOdd), ("b", closeFillStroke),
  ("b*", closeFillStrokeEvenOdd), ("n", endPath), ("W", clip), ("W*", clipEvenOdd),
  ("BT", beginText), ("ET", endText), ("Tc", characterSpacing), ("Tw", wordSpacing),
  ("Tz", horizontalScaling), ("TL", leading), ("Ts", rise), ("Tr", textMode), ("Tf", font),
  ("Td", moveText), ("TD", moveTextSetLeading), ("Tm", textMatrix), ("T*", nextLine),
  ("Tj", showText), ("TJ", showAdjusted), ("'", showNextLine), ("\"", showNextLineSpaced),
  ("d0", glyphWidth), ("d1", glyphBox), ("CS", strokingSpace), ("cs", fillingSpace),
  ("SC", strokingColor), ("SCN", strokingColorOrPattern), ("sc", fillingColor),
  ("scn", fillingColorOrPattern), ("G", strokingGray), ("g", fillingGray), ("RG", strokingRgb),
  ("rg", fillingRgb), ("K", strokingCmyk), ("k", fillingCmyk), ("Do", external), ("BI", inlineImage)]

/-- The operator with a name; none when it is unknown or has no effect. -/
def ofName? (name : String) : Option Operator := table.lookup name

def name (operator : Operator) : String :=
  ((table.find? fun entry => entry.2 == operator).map Prod.fst).getD ""

end Operator

end PdfElements
