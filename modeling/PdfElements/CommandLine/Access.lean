import PdfElements.Text.Utf8

/-!
Access to files. A run reads and writes through two operations, which the file system of a machine
offers as well as files that are held in memory.
-/

set_option autoImplicit false

namespace PdfElements.CommandLine

structure AccessFault where
  reason : String
  code : Nat
  deriving DecidableEq, Repr

namespace AccessFault

def missing : AccessFault := ⟨"No such file or directory", 2⟩

def denied : AccessFault := ⟨"Permission denied", 13⟩

def notDirectory : AccessFault := ⟨"Not a directory", 20⟩

def isDirectory : AccessFault := ⟨"Is a directory", 21⟩

def message (fault : AccessFault) : String :=
  fault.reason ++ " (os error " ++ toString fault.code ++ ")"

end AccessFault

structure FileAccess (m : Type → Type) where
  read : (path : String) → m (Except AccessFault (List UInt8))
  write : (path : String) → List UInt8 → m (Except AccessFault Unit)

/-- Files held in memory, in one directory that has no others in it. -/
abbrev Directory := List (String × List UInt8)

namespace Directory

def contents? (directory : Directory) (name : String) : Option (List UInt8) :=
  (directory.find? fun file => file.1 = name).map Prod.snd

inductive Target where
  | file (name : String)
  | fault (fault : AccessFault)
  deriving DecidableEq, Repr

/-- The parts of a path that lead anywhere; a slash at the end asks for a directory. -/
def parts (path : String) : List String × Bool :=
  let parts := path.splitOn "/"
  (parts.filter fun part => part ≠ "" && part ≠ ".", parts.getLast? = some "" && path ≠ "/")

/-- What a path leads to. There is no way out of the directory and none into a further one. -/
def target (directory : Directory) (path : String) : Target :=
  let absent (name : String) : AccessFault :=
    if (directory.contents? name).isSome then .notDirectory else .missing
  if path.startsWith "/" then .fault .missing
  else
    match parts path with
    | ([], _) => .fault (if path.isEmpty then .missing else .isDirectory)
    | ([name], false) => .file name
    | (name :: _, _) => .fault (absent name)

def read (directory : Directory) (path : String) : Except AccessFault (List UInt8) :=
  match directory.target path with
  | .fault fault => .error fault
  | .file name =>
    match directory.contents? name with
    | some bytes => .ok bytes
    | none => .error .missing

/-- The directory with a file, which takes the place of one with the same name. -/
def set (directory : Directory) (name : String) (bytes : List UInt8) : Directory :=
  (directory.filter fun file => file.1 ≠ name) ++ [(name, bytes)]

def write (directory : Directory) (path : String) (bytes : List UInt8) :
    Except AccessFault Directory :=
  match directory.target path with
  | .fault fault => .error fault
  | .file name => .ok (directory.set name bytes)

def access : FileAccess (StateM Directory) where
  read path := fun directory => (directory.read path, directory)
  write path bytes := fun directory =>
    match directory.write path bytes with
    | .ok directory => (.ok (), directory)
    | .error fault => (.error fault, directory)

end Directory

end PdfElements.CommandLine
