import PdfElements.Content.Command
import PdfElements.Failure
import PdfElements.Filter.Stream
import PdfElements.Warning

/-!
Why an instruction cannot be carried out.
-/

set_option autoImplicit false

namespace PdfElements

inductive NestedStream where
  | form
  | glyph
  deriving DecidableEq, Repr

def NestedStream.text : NestedStream → String
  | .form => "Form XObject"
  | .glyph => "Type3 glyph procedure"

inductive NestedFault where
  | object (fault : ObjectFault)
  | stream (fault : FilterFault)
  | tooDeep (what : NestedStream) (limit : Nat)

inductive CommandFault (K : Type) where
  | operands (fault : OperandFault K)
  | movedOutsideText
  | shownOutsideText
  | noFont
  | unusableFont (name : String)
  | unknownState (name : String)
  | stateFont
  | stateFontSize (object : Object)
  | unknownSpace (name : String)
  | unknownExternal (name : String)
  | externalNotStream (name : String)
  | nested (fault : NestedFault)

def FilterFault.toFailure (fault : FilterFault) : Failure :=
  .parse ("failed to decompress stream: " ++ fault.message)

def NestedFault.toFailure : NestedFault → Failure
  | .object fault => .parse fault.message
  | .stream fault => fault.toFailure
  | .tooDeep what limit =>
    .interpreter (what.text ++ " nested deeper than " ++ toString limit ++ " levels")

namespace CommandFault

variable {K : Type} [Scalar K]

def toFailure (operator : Operator) (fault : CommandFault K) : Failure :=
  let failed (reason : String) : Failure := .operator operator.name reason
  match fault with
  | operands fault => failed fault.message
  | movedOutsideText => failed "used outside BT/ET"
  | shownOutsideText => failed "text shown outside BT/ET"
  | noFont => failed "no font selected"
  | unusableFont name => failed ("selected font " ++ name ++ " is not usable")
  | unknownState name => failed ("ExtGState /" ++ name ++ " not found")
  | stateFont => failed "/Font must be [font size]"
  | stateFontSize found => .parse ("expected number, got " ++ found.text)
  | unknownSpace name => failed ("unknown color space /" ++ name)
  | unknownExternal name => failed ("XObject /" ++ name ++ " not found")
  | externalNotStream name => failed ("XObject /" ++ name ++ " is not a stream")
  | nested fault => fault.toFailure

end CommandFault

def Failure.operatorCode : Failure → WarningCode
  | .interpreter _ => .resourceLimitReached
  | _ => .malformedOperator

end PdfElements
