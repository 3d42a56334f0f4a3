import PdfElements.CommandLine.Run

/-!
The program: runs with the arguments and the files of the machine.
-/

set_option autoImplicit false

namespace PdfElements.CommandLine

def AccessFault.ofError : IO.Error → AccessFault
  | .noFileOrDirectory _ _ _ => .missing
  | .permissionDenied _ _ _ => .denied
  | .inappropriateType _ code reason => ⟨reason, code.toNat⟩
  | error => ⟨toString error, 0⟩

def attempt {α : Type} (action : IO α) : IO (Except AccessFault α) := do
  match ← action.toBaseIO with
  | .ok value => return .ok value
  | .error error => return .error (.ofError error)

def machine : FileAccess IO where
  read path := attempt do
    return (← IO.FS.readBinFile path).toList
  write path bytes := attempt (IO.FS.writeBinFile path ⟨bytes.toArray⟩)

end PdfElements.CommandLine

def main (arguments : List String) : IO UInt32 := do
  let report ← PdfElements.CommandLine.run PdfElements.CommandLine.machine arguments
  IO.print report.output
  IO.eprint report.errors
  return report.code
