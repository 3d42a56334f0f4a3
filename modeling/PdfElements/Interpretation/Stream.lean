import PdfElements.Content.Lexer
import PdfElements.Interpretation.Execution

/-!
Running content streams.
-/

set_option autoImplicit false

namespace PdfElements.Interpretation

variable {K : Type} [Scalar K]

/-- A stream under way: the interpreter, the operands that no operator has taken yet, the last one
first, and how many operators came before. -/
structure Progress (K : Type) where
  interpreter : Interpreter K
  operands : List (Operand K)
  index : Nat

/-- Behind one token. Operators that are unknown count like others. -/
def step (surroundings : Surroundings K) (progress : Progress K) (token : Token K) : Progress K :=
  let behind (name : String) (operands : List (Operand K)) : Progress K :=
    ⟨surroundings.dispatch name operands progress.index progress.interpreter, [],
      progress.index + 1⟩
  match token with
  | .operand operand => { progress with operands := operand :: progress.operands }
  | .operator name => behind name progress.operands
  | .image image => behind "BI" [.literal image.data, .dictionary image.entries]

def truncation (fault : Content.LexFault) : Warning :=
  { code := .malformedObject
    description := "content stream ends early: " ++ fault.toFailure.message }

/-- Behind all tokens of a stream. The first fault ends it. -/
def finish (setting : Setting) (fault? : Option Content.LexFault) (progress : Progress K) :
    Interpreter K :=
  match fault? with
  | none => progress.interpreter
  | some fault =>
    (progress.interpreter.moveTo ⟨none, progress.index⟩).warn setting (truncation fault)

def runWith (setting : Setting) (nested : Runner K) : Runner K := fun content interpreter =>
  let lexed : Content.Lexed K := Content.tokens content
  let progress := lexed.tokens.foldl (step ⟨setting, nested⟩) ⟨interpreter, [], 0⟩
  (finish setting lexed.fault? progress).moveTo interpreter.site

def runWithin (setting : Setting) : (levels : Nat) → Runner K
  | 0, _, interpreter => interpreter
  | levels + 1, content, interpreter =>
    runWith setting (runWithin setting levels) content interpreter

/-- Runs a stream. Streams may be nested up to the limit of the setting, so no more levels are
needed. -/
def run (setting : Setting) : Runner K := fun content interpreter =>
  runWithin setting (setting.options.depthLimit - interpreter.state.depth + 1) content interpreter

/-- What the instructions of a stream are carried out with. Streams within it run like it. -/
def surroundings (setting : Setting) : Surroundings K := ⟨setting, run setting⟩

end PdfElements.Interpretation
