/-!
Warnings: problems that were contained while extraction went on.
-/

set_option autoImplicit false

namespace PdfElements

inductive WarningCode where
  | missingFont
  /-- An operator had missing or unsuitable operands, or failed while it was executed. -/
  | malformedOperator
  | malformedObject
  | resourceLimitReached
  | other (detail : String)
  deriving DecidableEq, Repr

def WarningCode.text : WarningCode → String
  | .missingFont => "MISSING_FONT"
  | .malformedOperator => "MALFORMED_OPERATOR"
  | .malformedObject => "MALFORMED_OBJECT"
  | .resourceLimitReached => "RESOURCE_LIMIT_REACHED"
  | .other _ => "OTHER"

/-- A problem, where it arose, and the font it is about. -/
structure Warning where
  code : WarningCode
  description : String
  /-- Number of the page, counted from one. -/
  page? : Option Nat := none
  operator? : Option String := none
  index? : Option Nat := none
  font? : Option String := none
  deriving DecidableEq, Repr

/-- A warning of no particular category, with its description as the detail. -/
def Warning.ofDescription (description : String) : Warning :=
  { code := .other description, description }

def Warning.text (warning : Warning) : String :=
  let page := match warning.page? with
    | some number => " (page " ++ toString number ++ ")"
    | none => ""
  let font := match warning.font? with
    | some name => " [font " ++ name ++ "]"
    | none => ""
  let operator := match warning.operator?, warning.index? with
    | some name, some index => " [operator " ++ name ++ " #" ++ toString index ++ "]"
    | some name, none => " [operator " ++ name ++ "]"
    | none, some index => " [operator #" ++ toString index ++ "]"
    | none, none => ""
  "[" ++ warning.code.text ++ "] " ++ warning.description ++ page ++ font ++ operator

end PdfElements
