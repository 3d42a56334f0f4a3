import PdfElements.Proofs.Content.Faults
import PdfElements.Proofs.Content.Lexing

/-! A lexer that is asked for one token after the other. Every token takes it further on; once there
is none, or once it fails, there is never one again. It never leaves its input, and takes no index
and no slice outside of it. -/

set_option autoImplicit false

namespace PdfElements

/-- A token was read from the bytes between two positions, and the data of an image stands among
them. -/
structure Token.ReadBetween {K : Type} (input : List UInt8) (token : Token K)
    (start stop : Nat) : Prop where
  advances : start < stop
  within : stop ≤ input.length
  data {image : InlineImage K} : token = .image image → image.data <:+: input.extract start stop

namespace Content

namespace Lexer

section calls

variable (K : Type) [Scalar K]

/-- The lexer behind so many calls. -/
def after (lexer : Lexer) : Nat → Lexer
  | 0 => lexer
  | calls + 1 => (lexer.next K).2.after calls

/-- The answer to a call that so many others came before. -/
def answer (lexer : Lexer) (call : Nat) : Option (Except LexFault (Token K)) :=
  ((lexer.after K call).next K).1

/-- Every further call answers nothing and leaves the lexer as it is. -/
def Settled (lexer : Lexer) : Prop := lexer.next K = (none, lexer)

end calls

variable {K : Type} [Scalar K] {lexer : Lexer} {tokens : List (Token K)} {fault? : Option LexFault}

theorem Settled.after (settled : lexer.Settled K) (calls : Nat) : lexer.after K calls = lexer := by
  induction calls with
  | zero => rfl
  | succ calls ih =>
      unfold Lexer.after
      rw [settled]
      exact ih

theorem Settled.answer (settled : lexer.Settled K) (call : Nat) : lexer.answer K call = none := by
  unfold Lexer.answer
  rw [settled.after, settled]

theorem settled_of_failed (failed : lexer.failed = true) : lexer.Settled K := by
  simp only [Settled, next, failed, if_true]

/-- What a lexer answers from now on: tokens, each of them read further on than the one before,
then an error or none, and nothing ever after. -/
def Yields : Lexer → List (Token K) → Option LexFault → Prop
  | lexer, [], fault? =>
    (lexer.next K).1 = fault?.map .error ∧ (lexer.next K).2.Settled K
  | lexer, token :: more, fault? =>
    (lexer.next K).1 = some (.ok token) ∧
      token.ReadBetween lexer.input.toList lexer.position (lexer.next K).2.position ∧
      (lexer.next K).2.Yields more fault?

/-- What a call changes: where the lexer is, which is further on, and whether it failed. -/
structure MovesOn (lexer behind : Lexer) : Prop where
  idle : behind.Idle
  input : behind.input = lexer.input
  onward : lexer.position ≤ behind.position

theorem position_le_before (inside : lexer.position ≤ lexer.input.size) {rest : List UInt8}
    (suffix : rest <:+ lexer.left) : lexer.position ≤ (lexer.before rest).position := by
  have shorter := suffix.length_le
  have stands := position_before (suffix.trans (List.drop_suffix _ _))
  rw [length_left, remaining] at shorter
  omega

theorem movesOn_next (idle : lexer.Idle) : lexer.MovesOn (lexer.next K).2 := by
  cases failed : lexer.failed with
  | true =>
      have same : lexer.next K = (none, lexer) := settled_of_failed failed
      rw [same]
      exact ⟨idle, rfl, Nat.le_refl _⟩
  | false =>
      cases found : next? (K := K) lexer.input.size (lexer.left.length + 1) lexer.left with
      | error fault =>
          obtain ⟨rest, suffix, answer⟩ := idle.next_of_error failed found
          rw [answer]
          exact ⟨⟨idle.top, Nat.sub_le _ _⟩, rfl, position_le_before idle.inside suffix⟩
      | ok token? =>
          cases token? with
          | none =>
              rw [idle.next_of_none failed found]
              exact ⟨idle.before [], rfl, position_le_before idle.inside List.nil_suffix⟩
          | some entry =>
              rw [idle.next_of_token failed found]
              exact ⟨idle.before _, rfl, position_le_before idle.inside (behind_next found).suffix⟩

theorem input_next (idle : lexer.Idle) : (lexer.next K).2.input = lexer.input :=
  (movesOn_next idle).input

theorem Yields.length_le (yields : lexer.Yields tokens fault?) (idle : lexer.Idle) :
    lexer.position + tokens.length ≤ lexer.input.size := by
  induction tokens generalizing lexer with
  | nil => exact idle.inside
  | cons token more ih =>
      obtain ⟨_, read, yields⟩ := yields
      have advances := read.advances
      have onward := ih yields (movesOn_next idle).idle
      rw [input_next idle] at onward
      simp only [List.length_cons]
      omega

end Lexer

end Content

end PdfElements
