import Mathlib.Data.List.Infix
import PdfElements.Proofs.Interpretation.Balance

/-! Saving and restoring as brackets. What is between them leaves no trace on the graphics states,
and restoring where nothing was saved does nothing. -/

set_option autoImplicit false

namespace PdfElements

variable {K : Type}

instance (tokens : List (Token K)) : Decidable (Balanced tokens) :=
  decidable_of_iff
    ((∀ earlier ∈ tokens.inits,
        earlier.countP (Token.isNamed "Q") ≤ earlier.countP (Token.isNamed "q")) ∧
      tokens.countP (Token.isNamed "Q") = tokens.countP (Token.isNamed "q"))
    ⟨fun counted => ⟨fun earlier beginning => counted.1 earlier ((List.mem_inits _ _).mpr beginning),
        counted.2⟩,
      fun balanced => ⟨fun earlier listed => balanced.beginnings earlier ((List.mem_inits _ _).mp listed),
        balanced.total⟩⟩

/-- How many graphics states there are behind a token when there were so many before it. The last
one stays. -/
def Token.statesBehind (states : Nat) (token : Token K) : Nat :=
  if token.isNamed "q" then states + 1
  else if token.isNamed "Q" then max 1 (states - 1)
  else states

theorem GraphicsStack.restore_of_saved_nil {stack : GraphicsStack K} (nothing : stack.saved = []) :
    stack.restore = stack := by
  simp only [restore, restore?, nothing, Option.getD_none]

theorem GraphicsStack.restore_of_saved_cons {stack : GraphicsStack K} {state : GraphicsState K}
    {rest : List (GraphicsState K)} (saved : stack.saved = state :: rest) :
    stack.restore = ⟨state, rest⟩ := by
  simp only [restore, restore?, saved, Option.getD_some]

namespace Interpretation

variable [Scalar K]

section

variable {surroundings : Surroundings K}

omit [Scalar K] in
private theorem isNamed_restore_of_save {token : Token K} (saves : token.isNamed "q" = true) :
    token.isNamed "Q" = false := by
  cases token with
  | operator name =>
      obtain rfl : name = "q" := beq_iff_eq.mp saves
      rfl
  | operand | image => rfl

private theorem graphics_surplus (surroundings : Surroundings K) {progress : Progress K}
    (nothing : progress.interpreter.state.graphics.saved = []) :
    (step surroundings progress (.operator "Q")).interpreter.state.graphics =
      progress.interpreter.state.graphics := by
  have restored : (step surroundings progress (.operator "Q")).interpreter =
      surroundings.dispatch "Q" progress.operands progress.index progress.interpreter := rfl
  rw [restored, Surroundings.dispatch_restore]
  exact GraphicsStack.restore_of_saved_nil nothing

theorem depth_step (nested : surroundings.nested.Resumes) (progress : Progress K)
    (token : Token K) :
    (step surroundings progress token).interpreter.state.graphics.depth =
      token.statesBehind progress.interpreter.state.graphics.depth := by
  unfold GraphicsStack.depth Token.statesBehind
  by_cases enough : [token].countP (Token.isNamed "Q") ≤
      progress.interpreter.state.graphics.saved.length + [token].countP (Token.isNamed "q")
  · obtain ⟨left, saved, count⟩ :=
      saved_above_step nested progress token (List.append_nil _).symm enough
    rw [saved, List.append_nil]
    rw [List.countP_singleton, List.countP_singleton] at enough count
    cases saves : token.isNamed "q" with
    | true =>
        have restores : token.isNamed "Q" = false := isNamed_restore_of_save saves
        simp only [saves, restores, if_true, Bool.false_eq_true, if_false] at count ⊢
        omega
    | false =>
        cases restores : token.isNamed "Q" <;>
          simp only [saves, restores, if_true, Bool.false_eq_true, if_false] at enough count ⊢ <;>
          omega
  · rw [List.countP_singleton, List.countP_singleton] at enough
    have restores : token.isNamed "Q" = true := by
      by_contra other
      simp [other] at enough
    have surplus : progress.interpreter.state.graphics.saved = [] := by
      rw [← List.length_eq_zero_iff]
      simp only [restores, if_true] at enough
      omega
    cases token with
    | operator name =>
        obtain rfl : name = "Q" := beq_iff_eq.mp restores
        rw [graphics_surplus surroundings surplus, surplus]
        rfl
    | operand | image => cases restores

theorem depth_steps (nested : surroundings.nested.Resumes) (tokens : List (Token K))
    (progress : Progress K) :
    (tokens.foldl (step surroundings) progress).interpreter.state.graphics.depth =
      tokens.foldl Token.statesBehind progress.interpreter.state.graphics.depth := by
  induction tokens generalizing progress with
  | nil => rfl
  | cons token rest ih => rw [List.foldl_cons, List.foldl_cons, ih, depth_step nested]

private theorem graphics_bracketed (nested : surroundings.nested.Resumes)
    {tokens : List (Token K)} (balanced : Balanced tokens) (progress : Progress K) :
    (List.foldl (step surroundings) progress
        ((.operator "q" :: tokens) ++ [.operator "Q"])).interpreter.state.graphics =
      progress.interpreter.state.graphics := by
  let opened := step surroundings progress (.operator "q")
  let reached := tokens.foldl (step surroundings) opened
  have saved : opened.interpreter.state.graphics.saved =
      [] ++ (progress.interpreter.state.graphics.current ::
        progress.interpreter.state.graphics.saved) := by
    have dispatched : opened.interpreter =
        surroundings.dispatch "q" progress.operands progress.index progress.interpreter := rfl
    rw [dispatched, Surroundings.dispatch_save]
    rfl
  obtain ⟨left, below, count⟩ := saved_above_steps nested tokens opened saved (by
    intro earlier beginning
    exact Nat.le_trans (balanced.beginnings earlier beginning) (Nat.le_add_left _ _))
  have nothing : left = [] := by
    have total := balanced.total
    rw [← List.length_eq_zero_iff]
    simp only [List.length_nil] at count
    omega
  rw [nothing, List.nil_append] at below
  rw [List.cons_append, List.foldl_cons, List.foldl_append]
  change (surroundings.dispatch "Q" reached.operands reached.index
    reached.interpreter).state.graphics = progress.interpreter.state.graphics
  rw [Surroundings.dispatch_restore]
  exact GraphicsStack.restore_of_saved_cons below

end

/-- Saving, balanced tokens and restoring leave all graphics states as they were. Whatever the
tokens, restoring never fails, the states are as many as the tokens save and restore, of which one
at least is left, and restoring changes nothing when it is the only one. -/
theorem brackets_restore_graphics_states (setting : Setting) (progress : Progress K)
    (tokens : List (Token K)) :
    let behind (tokens : List (Token K)) : Interpreter K :=
      (tokens.foldl (step (surroundings setting)) progress).interpreter
    let reached := (behind tokens).state.graphics
    (Balanced tokens → (behind ((.operator "q" :: tokens) ++ [.operator "Q"])).state.graphics =
      progress.interpreter.state.graphics) ∧
    (∀ operands : List (Operand K),
      ((surroundings setting).handle .restore operands (behind tokens)).result = .ok ()) ∧
    reached.depth = tokens.foldl Token.statesBehind progress.interpreter.state.graphics.depth ∧
    1 ≤ reached.depth ∧
    (reached.depth = 1 → (behind (tokens ++ [.operator "Q"])).state.graphics = reached) := by
  intro behind reached
  have nested : (surroundings (K := K) setting).nested.Resumes := resumes_run setting
  refine ⟨?_, fun _ => rfl, depth_steps nested tokens progress, Nat.le_add_left 1 _, ?_⟩
  · intro balanced
    exact graphics_bracketed nested balanced progress
  · intro only
    have nothing : reached.saved = [] := List.length_eq_zero_iff.mp (Nat.succ.inj only)
    simp only [behind, List.foldl_append, List.foldl_cons, List.foldl_nil]
    exact graphics_surplus (surroundings setting) nothing

def bracketedTokens : List (Token Float) :=
  [.operator "W", .operator "q", .operator "cm", .operator "Q", .operator "Do"]

theorem bracketed_clip_restores_graphics_states :
    let setting : Setting := ⟨⟨[], []⟩, {}⟩
    let start : Progress Float := ⟨.start, [], 0⟩
    let behind (tokens : List (Token Float)) : Interpreter Float :=
      (tokens.foldl (step (surroundings setting)) start).interpreter
    Balanced bracketedTokens ∧ (behind bracketedTokens).state.graphics.depth = 1 ∧
      (behind ((.operator "q" :: bracketedTokens) ++ [.operator "Q"])).state.graphics =
        start.interpreter.state.graphics ∧
      (behind (bracketedTokens ++ [.operator "Q"])).state.graphics =
        (behind bracketedTokens).state.graphics := by
  intro setting start behind
  have balanced : Balanced bracketedTokens := by decide
  have main := brackets_restore_graphics_states setting start bracketedTokens
  have only : (behind bracketedTokens).state.graphics.depth = 1 := main.2.2.1.trans (by decide)
  exact ⟨balanced, only, main.1 balanced, main.2.2.2.2 only⟩

end Interpretation

end PdfElements
