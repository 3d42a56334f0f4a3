import PdfElements.Output.Json
import PdfElements.Warning

/-!
Warnings as JSON values.
-/

set_option autoImplicit false

namespace PdfElements

namespace WarningCode

/-- The categories without a detail, under the names that JSON values give them. -/
def plainKinds : List (String × WarningCode) := [
  ("MissingFont", missingFont), ("MalformedOperator", malformedOperator),
  ("MalformedObject", malformedObject), ("ResourceLimitReached", resourceLimitReached)]

def kind : WarningCode → String
  | missingFont => "MissingFont"
  | malformedOperator => "MalformedOperator"
  | malformedObject => "MalformedObject"
  | resourceLimitReached => "ResourceLimitReached"
  | other _ => "Other"

def toJson {K : Type} (code : WarningCode) : Json K :=
  match code with
  | other detail => .object [("type", .text code.kind), ("detail", .text detail)]
  | _ => .object [("type", .text code.kind)]

def ofJson? {K : Type} (json : Json K) : Option WarningCode := do
  let kind ← (← json.field? "type").text?
  if kind = "Other" then return other (← (← json.field? "detail").text?)
  else plainKinds.lookup kind

end WarningCode

namespace Warning

def toJson {K : Type} (warning : Warning) : Json K :=
  .object
    [("code", warning.code.toJson), ("description", .text warning.description),
     ("page", Json.orNull (fun page => .integer (page : Nat)) warning.page?),
     ("operator", Json.orNull .text warning.operator?),
     ("operator_index", Json.orNull (fun index => .integer (index : Nat)) warning.index?),
     ("font_name", Json.orNull .text warning.font?)]

def ofJson? {K : Type} (json : Json K) : Option Warning := do
  return {
    code := ← WarningCode.ofJson? (← json.field? "code")
    description := ← (← json.field? "description").text?
    page? := ← json.optional? "page" Json.natural?
    operator? := ← json.optional? "operator" Json.text?
    index? := ← json.optional? "operator_index" Json.natural?
    font? := ← json.optional? "font_name" Json.text? }

end Warning

end PdfElements
