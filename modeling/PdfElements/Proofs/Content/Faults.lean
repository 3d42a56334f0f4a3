import PdfElements.Proofs.Content.Tokens

/-! Where the lexer fails. An error that names an offset names one within the stream, and one that
names a byte as well names the byte at the offset. -/

set_option autoImplicit false

namespace PdfElements

namespace Content

/-- What an error says of the stream is so, and it is none of an index outside of it. -/
def LexFault.Locates (input : List UInt8) : LexFault → Prop
  | .unexpectedByte byte offset => input[offset]? = some byte
  | .tooDeep offset => offset ≤ input.length
  | .outOfBounds _ _ => False
  | _ => True

theorem getElem?_of_suffix {input rest : List UInt8} {byte : UInt8}
    (suffix : byte :: rest <:+ input) :
    input[input.length - (byte :: rest).length]? = some byte := by
  obtain ⟨read, rfl⟩ := suffix
  simp

variable {input bytes : List UInt8} {fault : LexFault}

theorem Literal.locates_scan {literal : Literal} (failed : literal.scan bytes = .error fault) :
    fault.Locates input := by
  induction bytes generalizing literal with
  | nil =>
      cases failed
      exact trivial
  | cons byte rest ih =>
      simp only [scan] at failed
      split at failed
      · exact ih failed
      · cases failed

theorem locates_hexadecimalFrom {reversed : List UInt8}
    (failed : hexadecimalFrom reversed bytes = .error fault) : fault.Locates input := by
  induction bytes generalizing reversed with
  | nil =>
      cases failed
      exact trivial
  | cons byte rest ih =>
      simp only [hexadecimalFrom] at failed
      split at failed
      · cases failed
      · split at failed
        · exact ih failed
        · split at failed
          · exact ih failed
          · cases failed
            exact trivial

variable {K : Type} [Scalar K]

/-- The errors of the lexer, with some fuel, locate themselves in the input. -/
structure FailsLocated (K : Type) [Scalar K] (input : List UInt8) (fuel : Nat) : Prop where
  operand {levels : Nat} {bytes : List UInt8} {fault : LexFault} : bytes <:+ input →
    operand (K := K) input.length fuel levels bytes = .error fault → fault.Locates input
  items {levels : Nat} {bytes : List UInt8} {fault : LexFault} {reversed : List (Operand K)} :
    bytes <:+ input →
      itemsFrom input.length fuel levels reversed bytes = .error fault → fault.Locates input
  entries {levels : Nat} {bytes : List UInt8} {fault : LexFault}
    {reversed : List (String × Operand K)} : bytes <:+ input →
      entriesFrom input.length fuel levels reversed bytes = .error fault → fault.Locates input

namespace FailsLocated

variable {fuel levels : Nat}

private theorem operand_succ (located : FailsLocated K input fuel) (suffix : bytes <:+ input)
    (failed : Content.operand (K := K) input.length (fuel + 1) levels bytes = .error fault) :
    fault.Locates input := by
  cases operandStart bytes with
  | nothing =>
      rw [operand_nil] at failed
      cases failed
      exact trivial
  | literal =>
      rw [operand_literal] at failed
      obtain failed | ⟨_, _, failed⟩ := bind_error failed
      · exact Literal.locates_scan failed
      · cases failed
  | dictionary =>
      cases levels with
      | zero =>
          rw [operand_dictionary_refused] at failed
          cases failed
          exact Nat.sub_le _ _
      | succ levels =>
          rw [operand_dictionary] at failed
          obtain failed | ⟨_, _, failed⟩ := bind_error failed
          · exact located.entries
              ((List.suffix_cons _ _).trans ((List.suffix_cons _ _).trans suffix)) failed
          · cases failed
  | hexadecimal single =>
      rw [operand_hexadecimal single] at failed
      obtain failed | ⟨_, _, failed⟩ := bind_error failed
      · exact locates_hexadecimalFrom failed
      · cases failed
  | array =>
      cases levels with
      | zero =>
          rw [operand_array_refused] at failed
          cases failed
          exact Nat.sub_le _ _
      | succ levels =>
          rw [operand_array] at failed
          obtain failed | ⟨_, _, failed⟩ := bind_error failed
          · exact located.items ((List.suffix_cons _ _).trans suffix) failed
          · cases failed
  | name =>
      rw [operand_name] at failed
      cases failed
  | number begins =>
      rw [operand_number begins] at failed
      cases failed
  | keyword regular word =>
      rw [operand_keyword regular word] at failed
      cases failed
  | other distinct irregular =>
      rw [operand_other distinct irregular] at failed
      cases failed
      exact getElem?_of_suffix suffix

private theorem items_succ (located : FailsLocated K input fuel) {reversed : List (Operand K)}
    (suffix : bytes <:+ input)
    (failed : itemsFrom input.length (fuel + 1) levels reversed bytes = .error fault) :
    fault.Locates input := by
  have start := (skipBlanks_suffix bytes).trans suffix
  simp only [itemsFrom] at failed
  split at failed
  · cases failed
    exact trivial
  · cases failed
  · obtain failed | ⟨_, read, failed⟩ := bind_error failed
    · exact located.operand start failed
    · exact located.items ((behind_operand read).suffix.trans start) failed

private theorem entries_succ (located : FailsLocated K input fuel)
    {reversed : List (String × Operand K)} (suffix : bytes <:+ input)
    (failed : entriesFrom input.length (fuel + 1) levels reversed bytes = .error fault) :
    fault.Locates input := by
  simp only [entriesFrom] at failed
  split at failed
  · cases failed
    exact trivial
  · cases failed
  · next slash =>
      have start := (behind_key slash).suffix.trans suffix
      obtain failed | ⟨_, read, failed⟩ := bind_error failed
      · exact located.operand start failed
      · exact located.entries ((behind_operand read).suffix.trans start) failed
  · cases failed
    exact trivial

end FailsLocated

variable {fuel : Nat}

end Content

end PdfElements
