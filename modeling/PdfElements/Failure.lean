/-!
Failures, by how far they reach. A failure of the document ends its processing. A failure below
that level ends a stream, a font or one operator, and is reported with its kind and its text.
-/

set_option autoImplicit false

namespace PdfElements

inductive DocumentError where
  | parse (detail : String)
  | file (detail : String)
  | font (detail : String)
  | interpreter (detail : String)
  | passwordRequired
  | other (detail : String)
  deriving DecidableEq, Repr

def DocumentError.message : DocumentError → String
  | .parse detail => "parse error: " ++ detail
  | .file detail => "I/O error: " ++ detail
  | .font detail => "font error: " ++ detail
  | .interpreter detail => "interpreter error: " ++ detail
  | .passwordRequired => "PDF is encrypted and requires a password"
  | .other detail => detail

inductive Failure where
  | parse (detail : String)
  | file (detail : String)
  | font (detail : String)
  | interpreter (detail : String)
  /-- One operator that could not be executed; the ones after it are not affected. -/
  | operator (name reason : String)
  | document (error : DocumentError)
  deriving DecidableEq, Repr

def Failure.message : Failure → String
  | .parse detail => "PDF parse error: " ++ detail
  | .file detail => "I/O error: " ++ detail
  | .font detail => "font error: " ++ detail
  | .interpreter detail => "interpreter error: " ++ detail
  | .operator name reason => "operator " ++ name ++ ": " ++ reason
  | .document error => error.message

/-- What a failure becomes when it ends the processing of a document. -/
def Failure.toDocumentError : Failure → DocumentError
  | .parse detail => .parse detail
  | .file detail => .file detail
  | .font detail => .font detail
  | .interpreter detail => .interpreter detail
  | .operator name reason => .interpreter (Failure.operator name reason).message
  | .document error => error

end PdfElements
