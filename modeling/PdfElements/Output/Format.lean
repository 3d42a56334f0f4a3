import PdfElements.Output.ViewJson
import PdfElements.Output.ViewXml

/-!
The formats in which documents are written.
-/

set_option autoImplicit false

namespace PdfElements

inductive OutputFormat where
  | json
  | xml
  deriving DecidableEq, Repr

namespace OutputFormat

def all : List OutputFormat := [json, xml]

def name : OutputFormat → String
  | json => "json"
  | xml => "xml"

end OutputFormat

structure UnknownFormat where
  name : String
  deriving DecidableEq, Repr

def UnknownFormat.message (unknown : UnknownFormat) : String :=
  "unknown serialization format '" ++ unknown.name ++ "' (expected one of: json, xml)"

/-- The format of a name, in any case and with white space around it. -/
def OutputFormat.ofName (name : String) : Except UnknownFormat OutputFormat :=
  match OutputFormat.all.find? fun format =>
      Text.equalsIgnoringCase format.name (Text.trim name) with
  | some format => .ok format
  | none => .error ⟨name⟩

def OutputFormat.write {K : Type} [Scalar K] (format : OutputFormat) (document : Document K)
    (types : List ElementType) : String :=
  let view := View.ofDocument document types
  match format with
  | .json => view.toJson.render 0
  | .xml => view.toXml.render

end PdfElements
