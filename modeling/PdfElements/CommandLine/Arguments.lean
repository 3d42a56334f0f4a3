import PdfElements.Element
import PdfElements.Output.Format

/-!
The arguments of a run: which file is read, what is extracted from it and where it is written.
Arguments are taken one by one; the first that asks for help or the version, or that cannot be
taken, settles the run.
-/

set_option autoImplicit false

namespace PdfElements.CommandLine

structure Request where
  input : String
  /-- The file that is written; without one, the result is printed. -/
  output? : Option String
  format : OutputFormat
  types : List ElementType
  places? : Option Nat
  deriving DecidableEq, Repr

inductive Invocation where
  | help
  | version
  | extract (request : Request)
  deriving DecidableEq, Repr

inductive ValueOption where
  | format
  | type
  | precision
  deriving DecidableEq, Repr

namespace ValueOption

def all : List ValueOption := [format, type, precision]

def name : ValueOption → String
  | format => "format"
  | type => "type"
  | precision => "precision"

def letter? : ValueOption → Option Char
  | format => some 'f'
  | type => some 't'
  | precision => none

end ValueOption

inductive UsageFault where
  | inputMissing
  | emptyPath
  | unexpectedArgument (argument : String)
  | unknownOption (option : String)
  | valueMissing (option : ValueOption)
  | invalidValue (option : ValueOption) (value : String)
  | repeated (option : ValueOption)
  /-- A value for an option that takes none. -/
  | unexpectedValue (option : String)
  deriving DecidableEq, Repr

def UsageFault.message : UsageFault → String
  | .inputMissing => "the required argument <PDF> was not provided"
  | .emptyPath => "a path must not be empty"
  | .unexpectedArgument argument => "unexpected argument '" ++ argument ++ "' found"
  | .unknownOption option => "unexpected option '" ++ option ++ "' found"
  | .valueMissing option => "a value is required for '--" ++ option.name ++ "' but none was supplied"
  | .invalidValue option value => "invalid value '" ++ value ++ "' for '--" ++ option.name ++ "'"
  | .repeated option => "the option '--" ++ option.name ++ "' cannot be used multiple times"
  | .unexpectedValue option => "unexpected value for '--" ++ option ++ "' found"

inductive Stop where
  | help
  | version
  | fault (fault : UsageFault)
  deriving DecidableEq, Repr

structure Given where
  input? : Option String := none
  output? : Option String := none
  format? : Option OutputFormat := none
  types : List ElementType := []
  places? : Option Nat := none
  pending? : Option ValueOption := none
  /-- Whether options are over, so that each argument is a path. -/
  pathsOnly : Bool := false
  deriving DecidableEq, Repr

def format? (name : String) : Option OutputFormat :=
  OutputFormat.all.find? fun format => format.name = name

def types? (names : String) : Option (List ElementType) :=
  (names.splitOn ",").mapM fun name => ElementType.all.find? fun type => type.name = name

def digits? (digits : List Char) : Option Nat :=
  if digits.isEmpty || !digits.all Char.isDigit then none
  else some (digits.foldl (fun value digit => value * 10 + (digit.toNat - '0'.toNat)) 0)

/-- A number of decimal places: 32 bits without a sign, or with one that does not matter. -/
def places? (text : String) : Option Nat :=
  let value? := match text.toList with
    | '+' :: digits => digits? digits
    | '-' :: digits => (digits? digits).bind fun value => if value = 0 then some 0 else none
    | digits => digits? digits
  value?.bind fun value => if value < Nat.pow 2 32 then some value else none

namespace Given

/-- Takes the value of an option. Only the kinds of elements may be told more than once. -/
def setValue (given : Given) (option : ValueOption) (value : String) : Except Stop Given :=
  let given := { given with pending? := none }
  let orInvalid {α : Type} (read? : Option α) (change : α → Given) : Except Stop Given :=
    match read? with
    | some read => .ok (change read)
    | none => .error (.fault (.invalidValue option value))
  match option with
  | .type => orInvalid (types? value) fun types => { given with types := given.types ++ types }
  | .format =>
    if given.format?.isSome then .error (.fault (.repeated option))
    else orInvalid (CommandLine.format? value) fun format => { given with format? := some format }
  | .precision =>
    if given.places?.isSome then .error (.fault (.repeated option))
    else orInvalid (CommandLine.places? value) fun places => { given with places? := some places }

/-- Takes a path: the first is that of the input, the second that of the output. -/
def addPath (given : Given) (path : String) : Except Stop Given :=
  match given.input?, given.output? with
  | none, _ =>
    if path.isEmpty then .error (.fault .emptyPath) else .ok { given with input? := some path }
  | some _, none =>
    if path.isEmpty then .error (.fault .emptyPath) else .ok { given with output? := some path }
  | some _, some _ => .error (.fault (.unexpectedArgument path))

/-- Takes the letters behind one dash. A letter whose option takes a value has it behind itself,
perhaps after an equals sign, or in the next argument. -/
def addLetters (given : Given) : List Char → Except Stop Given
  | [] => .ok given
  | letter :: rest =>
    if letter = 'v' then given.addLetters rest
    else if letter = 'h' then .error .help
    else if letter = 'V' then .error .version
    else
      match ValueOption.all.find? fun option => option.letter? = some letter with
      | none => .error (.fault (.unknownOption (String.ofList ['-', letter])))
      | some option =>
        match rest with
        | [] => .ok { given with pending? := some option }
        | '=' :: value => given.setValue option (String.ofList value)
        | value => given.setValue option (String.ofList value)

/-- Takes the name behind two dashes, with the value that an equals sign puts behind it. -/
def addName (given : Given) (name : String) (value? : Option String) : Except Stop Given :=
  let flag (taken : Except Stop Given) : Except Stop Given :=
    if value?.isSome then .error (.fault (.unexpectedValue name)) else taken
  if name = "verbose" then flag (.ok given)
  else if name = "help" then flag (.error .help)
  else if name = "version" then flag (.error .version)
  else
    match ValueOption.all.find? fun option => option.name = name with
    | none => .error (.fault (.unknownOption ("--" ++ name)))
    | some option =>
      match value? with
      | some value => given.setValue option value
      | none => .ok { given with pending? := some option }

/-- Takes an argument where no option waits for a value. One dash alone is a path, and two dashes
alone end the options. -/
def addArgument (given : Given) (argument : String) : Except Stop Given :=
  if given.pathsOnly then given.addPath argument
  else
    match argument.toList with
    | ['-', '-'] => .ok { given with pathsOnly := true }
    | '-' :: '-' :: option =>
      let name := option.takeWhile (· ≠ '=')
      let value? := match option.dropWhile (· ≠ '=') with
        | [] => none
        | _ :: value => some (String.ofList value)
      given.addName (String.ofList name) value?
    | '-' :: letter :: rest => given.addLetters (letter :: rest)
    | _ => given.addPath argument

/-- Whether an argument is no value: it begins with a dash and is not just that. -/
def isOption (argument : String) : Bool :=
  match argument.toList with
  | '-' :: _ :: _ => true
  | _ => false

def step (given : Given) (argument : String) : Except Stop Given :=
  match given.pending? with
  | none => given.addArgument argument
  | some option =>
    if isOption argument then .error (.fault (.valueMissing option))
    else given.setValue option argument

/-- The request, when all arguments were taken. Kinds of elements are in their own order, whatever
that of the arguments; none stands for all. -/
def request (given : Given) : Except UsageFault Request :=
  match given.pending?, given.input? with
  | some option, _ => .error (.valueMissing option)
  | none, none => .error .inputMissing
  | none, some input => .ok
    { input
      output? := given.output?
      format := given.format?.getD .json
      types := ElementType.all.filter fun type => given.types.isEmpty || given.types.contains type
      places? := given.places? }

end Given

def Invocation.ofArguments (arguments : List String) : Except UsageFault Invocation :=
  match arguments.foldlM Given.step {} with
  | .error .help => .ok .help
  | .error .version => .ok .version
  | .error (.fault fault) => .error fault
  | .ok given => given.request.map .extract

end PdfElements.CommandLine
