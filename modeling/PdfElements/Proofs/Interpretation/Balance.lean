import PdfElements.Proofs.Interpretation.Continuation

/-! How many graphics states are saved in a stream. Two operators change their number, and a
balanced stream restores exactly what it saves. -/

set_option autoImplicit false

namespace PdfElements

variable {K : Type}

def Token.isNamed (name : String) : Token K → Bool
  | .operator found => found == name
  | _ => false

/-- No beginning of the tokens restores more than it saves, and all of them restore as much. -/
structure Balanced (tokens : List (Token K)) : Prop where
  beginnings : ∀ earlier, earlier <+: tokens →
    earlier.countP (Token.isNamed "Q") ≤ earlier.countP (Token.isNamed "q")
  total : tokens.countP (Token.isNamed "Q") = tokens.countP (Token.isNamed "q")

namespace Surroundings

variable [Scalar K]

theorem dispatch_save (surroundings : Surroundings K) (operands : List (Operand K)) (index : Nat)
    (interpreter : Interpreter K) :
    surroundings.dispatch "q" operands index interpreter =
      (interpreter.moveTo ⟨some .save, index⟩).modify
        fun state => { state with graphics := state.graphics.save } := by
  have found : Operator.ofName? "q" = some .save := by decide
  simp only [dispatch, found]
  rfl

theorem dispatch_restore (surroundings : Surroundings K) (operands : List (Operand K))
    (index : Nat) (interpreter : Interpreter K) :
    surroundings.dispatch "Q" operands index interpreter =
      (interpreter.moveTo ⟨some .restore, index⟩).modify
        fun state => { state with graphics := state.graphics.restore } := by
  have found : Operator.ofName? "Q" = some .restore := by decide
  simp only [dispatch, found]
  rfl

theorem saved_dispatch {surroundings : Surroundings K} (nested : surroundings.nested.Resumes)
    {name : String} (noSave : name ≠ "q") (noRestore : name ≠ "Q") (operands : List (Operand K))
    (index : Nat) (interpreter : Interpreter K) :
    (surroundings.dispatch name operands index interpreter).state.graphics.saved =
      interpreter.state.graphics.saved := by
  unfold dispatch
  cases found : Operator.ofName? name with
  | none => rfl
  | some operator =>
      let placed := interpreter.moveTo ⟨some operator, index⟩
      have handled : placed.Keeps (surroundings.handle operator operands placed).interpreter := by
        unfold handle
        cases read : operator.read operands with
        | error fault => exact .refl placed
        | ok instructions =>
            refine keeps_executeAll nested (Operator.stacks_of_read ?_ ?_ read) placed
            · rintro rfl
              exact noSave (Operator.name_of_ofName? found).symm
            · rintro rfl
              exact noRestore (Operator.name_of_ofName? found).symm
      dsimp only
      split
      · exact handled.saved
      · exact (handled.trans (surroundings.keeps_report _ _)).saved

end Surroundings

namespace Interpretation

variable [Scalar K] {surroundings : Surroundings K}

/-- What lies below the states that a token may restore stays. -/
theorem saved_above_step (nested : surroundings.nested.Resumes) (progress : Progress K)
    (token : Token K) {above below : List (GraphicsState K)}
    (split : progress.interpreter.state.graphics.saved = above ++ below)
    (enough : [token].countP (Token.isNamed "Q") ≤
      above.length + [token].countP (Token.isNamed "q")) :
    ∃ left, (step surroundings progress token).interpreter.state.graphics.saved = left ++ below ∧
      left.length + [token].countP (Token.isNamed "Q") =
        above.length + [token].countP (Token.isNamed "q") := by
  cases token with
  | operand operand => exact ⟨above, split, rfl⟩
  | image image =>
      have noSave : "BI" ≠ "q" := by decide
      have noRestore : "BI" ≠ "Q" := by decide
      have dispatched := Surroundings.saved_dispatch nested noSave noRestore
        [.literal image.data, .dictionary image.entries] progress.index progress.interpreter
      exact ⟨above, dispatched.trans split, rfl⟩
  | operator name =>
      have dispatched : (step surroundings progress (.operator name)).interpreter =
          surroundings.dispatch name progress.operands progress.index progress.interpreter := rfl
      rw [dispatched]
      by_cases save : name = "q"
      · subst save
        rw [Surroundings.dispatch_save]
        exact ⟨progress.interpreter.state.graphics.current :: above,
          congrArg (progress.interpreter.state.graphics.current :: ·) split, rfl⟩
      · by_cases restore : name = "Q"
        · subst restore
          rw [Surroundings.dispatch_restore]
          cases above with
          | nil => exact absurd enough (Nat.not_succ_le_zero 0)
          | cons state rest =>
              refine ⟨rest, ?_, rfl⟩
              simp [Interpreter.modify, Interpreter.moveTo, GraphicsStack.restore,
                GraphicsStack.restore?, split]
        · rw [Surroundings.saved_dispatch nested save restore]
          refine ⟨above, split, ?_⟩
          simp [Token.isNamed, save, restore]

/-- The states that are saved behind some tokens, of which no beginning restores more than was
saved above some others. -/
theorem saved_above_steps (nested : surroundings.nested.Resumes) (tokens : List (Token K))
    (progress : Progress K) {above below : List (GraphicsState K)}
    (split : progress.interpreter.state.graphics.saved = above ++ below)
    (enough : ∀ earlier, earlier <+: tokens → earlier.countP (Token.isNamed "Q") ≤
      above.length + earlier.countP (Token.isNamed "q")) :
    ∃ left, (tokens.foldl (step surroundings) progress).interpreter.state.graphics.saved =
        left ++ below ∧
      left.length + tokens.countP (Token.isNamed "Q") =
        above.length + tokens.countP (Token.isNamed "q") := by
  induction tokens generalizing progress above with
  | nil => exact ⟨above, split, rfl⟩
  | cons token rest ih =>
      have counts (name : String) (more : List (Token K)) :
          (token :: more).countP (Token.isNamed name) =
            [token].countP (Token.isNamed name) + more.countP (Token.isNamed name) := by
        rw [← List.countP_append, List.singleton_append]
      obtain ⟨middle, middleSaved, middleCount⟩ := saved_above_step nested progress token split
        (enough [token] (List.prefix_append [token] rest))
      obtain ⟨left, saved, count⟩ := ih (step surroundings progress token) middleSaved (by
        intro earlier isPrefix
        have joined := enough (token :: earlier) (List.cons_prefix_cons.mpr ⟨rfl, isPrefix⟩)
        rw [counts "Q" earlier, counts "q" earlier] at joined
        omega)
      refine ⟨left, saved, ?_⟩
      rw [counts "Q" rest, counts "q" rest]
      omega

end Interpretation

end PdfElements
