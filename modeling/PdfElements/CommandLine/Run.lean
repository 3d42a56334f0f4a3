import PdfElements.CommandLine.Access
import PdfElements.CommandLine.Arguments
import PdfElements.Extraction

/-!
One run of the program, from its arguments to what it prints and its exit code.
-/

set_option autoImplicit false

namespace PdfElements.CommandLine

/-- How a run ends: its exit code and what it prints as output and as errors. -/
structure Report where
  code : UInt32
  output : String := ""
  errors : String := ""
  deriving DecidableEq, Repr

def versionText : String := "pdfparser 0.1.0\n"

def usageLine : String := "Usage: pdfparser [OPTIONS] <PDF> [OUTPUT]\n"

def helpText : String :=
  "Parse the content streams of a PDF file into characters, figures and shapes\n\n" ++ usageLine ++
    "\nArguments:\n" ++
    "  <PDF>     The PDF file to process\n" ++
    "  [OUTPUT]  Output file. Default: stdout\n" ++
    "\nOptions:\n" ++
    "  -f, --format <FORMAT>  Output format [default: json] [possible values: json, xml]\n" ++
    "  -t, --type <TYPE>      Element types to extract, repeatable or comma-separated. " ++
    "Default: all [possible values: characters, figures, shapes]\n" ++
    "      --precision <N>    Round coordinates and font sizes to N decimal places\n" ++
    "  -v, --verbose...       Increase log verbosity\n" ++
    "  -h, --help             Print help\n" ++
    "  -V, --version          Print version\n"

/-- The text of what is extracted; none if extraction never ends. -/
def Request.text (request : Request) (bytes : List UInt8) :
    Except DocumentError (Option String) := do
  let assembly? : Option (Assembly Float) ←
    Extraction.file bytes { places? := request.places? } (some request.input)
  return assembly?.map fun assembly => request.format.write assembly.document request.types

/-- What a run ends with when the input yields nothing. -/
def Report.ofDocumentError (request : Request) (error : DocumentError) : Report :=
  { code := 1
    errors := "Error parsing '" ++ request.input ++ "': " ++ error.message ++ "\n" }

/-- What a run ends with that would never end: the system stops it when its stack is full. -/
def Report.aborted : Report := { code := 134 }

variable {m : Type → Type} [Monad m]

/-- Delivers a text: prints it as a line, or writes it as it is. -/
def Request.deliver (request : Request) (access : FileAccess m) (text : String) : m Report :=
  match request.output? with
  | none => return { code := 0, output := text ++ "\n" }
  | some path => do
    match ← access.write path (Text.encodeUtf8 text) with
    | .ok _ => return { code := 0 }
    | .error fault =>
      return { code := 1, errors := "Error writing output: " ++ fault.message ++ "\n" }

def Request.run (request : Request) (access : FileAccess m) : m Report := do
  match ← access.read request.input with
  | .error fault =>
    return .ofDocumentError request (.file (request.input ++ ": " ++ fault.message))
  | .ok bytes =>
    match request.text bytes with
    | .error error => return .ofDocumentError request error
    | .ok (some text) => request.deliver access text
    | .ok none => return .aborted

def run (access : FileAccess m) (arguments : List String) : m Report :=
  match Invocation.ofArguments arguments with
  | .error fault =>
    return { code := 2, errors := "error: " ++ fault.message ++ "\n\n" ++ usageLine }
  | .ok .help => return { code := 0, output := helpText }
  | .ok .version => return { code := 0, output := versionText }
  | .ok (.extract request) => request.run access

end PdfElements.CommandLine
