import PdfElements.Proofs.Interpretation.Moments

/-! The levels that a run starts with are never used up: the limit on nesting refuses a stream
before that. So streams within a stream run as the stream itself does. -/

set_option autoImplicit false

namespace PdfElements.Interpretation

variable {K : Type} [Scalar K] {setting : Setting}

/-- With more levels than the limit leaves to a stream, their number does not matter. -/
theorem runWithin_eq {levels more : Nat} {interpreter : Interpreter K}
    (allowed : interpreter.state.depth ≤ setting.options.depthLimit)
    (enough : setting.options.depthLimit < interpreter.state.depth + levels)
    (enoughMore : setting.options.depthLimit < interpreter.state.depth + more)
    (content : List UInt8) :
    runWithin setting levels content interpreter = runWithin setting more content interpreter := by
  induction levels generalizing more interpreter content with
  | zero => omega
  | succ levels ih =>
      cases more with
      | zero => omega
      | succ more =>
          refine runWith_congr ?_
          intro run begins
          have nested : (Surroundings.mk (K := K) setting (runWithin setting levels)).nested.Resumes :=
            resumes_runWithin setting levels
          obtain ⟨depth, within⟩ := depth_moments nested content interpreter _ begins
          dsimp only at within
          exact ih (by omega) (by omega) (by omega) run.content

/-- A stream runs the streams within it as it runs itself. -/
theorem run_eq (setting : Setting) :
    (run setting : Runner K) = runWith setting (run setting) := by
  funext content interpreter
  refine runWith_congr ?_
  intro nested begins
  have resumes : (Surroundings.mk (K := K) setting (runWithin setting
      (setting.options.depthLimit - interpreter.state.depth))).nested.Resumes :=
    resumes_runWithin setting _
  obtain ⟨depth, within⟩ := depth_moments resumes content interpreter _ begins
  dsimp only at within
  exact runWithin_eq (by omega) (by omega) (by omega) nested.content

end PdfElements.Interpretation
