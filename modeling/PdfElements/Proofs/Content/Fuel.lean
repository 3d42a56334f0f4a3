import PdfElements.Proofs.Content.Tokens

/-! The fuel of the lexer is no budget. Every amount that the bytes cannot use up reads the same
from them, and fails the same on them: each scanner ends since it leaves fewer bytes each time. -/

set_option autoImplicit false

namespace PdfElements

namespace Content

variable {K : Type} [Scalar K]

/-- Two amounts of fuel read the same from bytes that neither of them runs out on. -/
structure ReadsAlike (K : Type) [Scalar K] (size fuel other : Nat) : Prop where
  operand {levels : Nat} {bytes : List UInt8} :
    2 * bytes.length < fuel → 2 * bytes.length < other →
      operand (K := K) size fuel levels bytes = operand size other levels bytes
  items {levels : Nat} {bytes : List UInt8} (reversed : List (Operand K)) :
    2 * bytes.length + 1 < fuel → 2 * bytes.length + 1 < other →
      itemsFrom size fuel levels reversed bytes = itemsFrom size other levels reversed bytes
  entries {levels : Nat} {bytes : List UInt8} (reversed : List (String × Operand K)) :
    2 * bytes.length + 1 < fuel → 2 * bytes.length + 1 < other →
      entriesFrom size fuel levels reversed bytes = entriesFrom size other levels reversed bytes

namespace ReadsAlike

variable {size fuel other levels : Nat} {bytes : List UInt8}

private theorem operand_succ (alike : ReadsAlike K size fuel other)
    (enough : 2 * bytes.length < fuel + 1) (enoughOther : 2 * bytes.length < other + 1) :
    Content.operand (K := K) size (fuel + 1) levels bytes =
      Content.operand size (other + 1) levels bytes := by
  cases operandStart bytes with
  | nothing => rw [operand_nil, operand_nil]
  | literal => rw [operand_literal, operand_literal]
  | dictionary =>
      simp only [List.length_cons] at enough enoughOther
      cases levels with
      | zero => rw [operand_dictionary_refused, operand_dictionary_refused]
      | succ levels =>
          rw [operand_dictionary, operand_dictionary]
          exact bind_congr_ok (alike.entries [] (by omega) (by omega)) fun _ _ => rfl
  | hexadecimal single => rw [operand_hexadecimal single, operand_hexadecimal single]
  | array =>
      simp only [List.length_cons] at enough enoughOther
      cases levels with
      | zero => rw [operand_array_refused, operand_array_refused]
      | succ levels =>
          rw [operand_array, operand_array]
          exact bind_congr_ok (alike.items [] (by omega) (by omega)) fun _ _ => rfl
  | name => rw [operand_name, operand_name]
  | number begins => rw [operand_number begins, operand_number begins]
  | keyword regular word => rw [operand_keyword regular word, operand_keyword regular word]
  | other distinct irregular =>
      rw [operand_other distinct irregular, operand_other distinct irregular]

private theorem items_succ (alike : ReadsAlike K size fuel other) (reversed : List (Operand K))
    (enough : 2 * bytes.length + 1 < fuel + 1) (enoughOther : 2 * bytes.length + 1 < other + 1) :
    itemsFrom size (fuel + 1) levels reversed bytes =
      itemsFrom size (other + 1) levels reversed bytes := by
  have within := (skipBlanks_suffix bytes).length_le
  simp only [itemsFrom]
  split
  · rfl
  · rfl
  · refine bind_congr_ok (alike.operand (by omega) (by omega)) ?_
    intro item first
    have shorter := (behind_operand first).shorter
    exact alike.items _ (by omega) (by omega)

private theorem entries_succ (alike : ReadsAlike K size fuel other)
    (reversed : List (String × Operand K))
    (enough : 2 * bytes.length + 1 < fuel + 1) (enoughOther : 2 * bytes.length + 1 < other + 1) :
    entriesFrom size (fuel + 1) levels reversed bytes =
      entriesFrom size (other + 1) levels reversed bytes := by
  simp only [entriesFrom]
  split
  · rfl
  · rfl
  · next start slash =>
      have within := (behind_key slash).shorter
      refine bind_congr_ok (alike.operand (by omega) (by omega)) ?_
      intro value first
      have shorter := (behind_operand first).shorter
      exact alike.entries _ (by omega) (by omega)
  · rfl

end ReadsAlike

theorem readsAlike (size fuel other : Nat) : ReadsAlike K size fuel other := by
  induction fuel generalizing other with
  | zero => exact ⟨nofun, nofun, nofun⟩
  | succ fuel ih =>
      cases other with
      | zero => exact ⟨nofun, nofun, nofun⟩
      | succ other =>
          have alike := ih other
          exact ⟨alike.operand_succ, alike.items_succ, alike.entries_succ⟩

variable {size fuel other : Nat} {bytes : List UInt8}

theorem imageEntriesFrom_congr (reversed : List (String × Operand K))
    (enough : bytes.length < fuel) (enoughOther : bytes.length < other) :
    imageEntriesFrom size fuel reversed bytes = imageEntriesFrom size other reversed bytes := by
  induction fuel generalizing other reversed bytes with
  | zero => cases enough
  | succ fuel ih =>
      obtain ⟨other, rfl⟩ := Nat.exists_eq_succ_of_ne_zero (Nat.ne_zero_of_lt enoughOther)
      simp only [imageEntriesFrom]
      split
      · rfl
      · next start slash =>
          have within := (behind_key slash).shorter
          refine bind_congr_ok ((readsAlike size _ _).operand ?_ ?_) ?_
          · simp only [operandFuel]
            omega
          · simp only [operandFuel]
            omega
          · intro value first
            have shorter := (behind_operand first).shorter
            exact ih _ (by omega) (by omega)
      · rfl
      · rfl

theorem keywordToken_congr (enough : bytes.length < fuel) (enoughOther : bytes.length < other) :
    keywordToken (K := K) size fuel bytes = keywordToken size other bytes := by
  have within : (keyword bytes).2.length ≤ bytes.length :=
    (List.dropWhile_suffix isRegular).length_le
  by_cases begins : (keyword bytes).1 = "BI"
  · rw [keywordToken_of_eq begins, keywordToken_of_eq begins]
    refine bind_congr_ok ?_ fun _ _ => rfl
    exact bind_congr_ok (imageEntriesFrom_congr [] (by omega) (by omega)) fun _ _ => rfl
  · rw [keywordToken_of_ne begins, keywordToken_of_ne begins]

/-- The next token, or why there is none, with any fuel that is more than the number of bytes. -/
theorem next_congr (enough : bytes.length < fuel) (enoughOther : bytes.length < other) :
    next? (K := K) size fuel bytes = next? size other bytes := by
  induction fuel generalizing other bytes with
  | zero => cases enough
  | succ fuel ih =>
      obtain ⟨other, rfl⟩ := Nat.exists_eq_succ_of_ne_zero (Nat.ne_zero_of_lt enoughOther)
      have within := (skipBlanks_suffix bytes).length_le
      cases begins : skipBlanks bytes with
      | nil => rw [next_nil begins, next_nil begins]
      | cons byte start =>
          rw [begins, List.length_cons] at within
          cases firstByte byte start with
          | angles =>
              rw [List.length_cons] at within
              rw [next_angles begins, next_angles begins]
              exact ih (by omega) (by omega)
          | angle single =>
              rw [next_angle begins single, next_angle begins single]
              exact ih (by omega) (by omega)
          | operand opens =>
              have room : 2 * (byte :: start).length < operandFuel fuel ∧
                  2 * (byte :: start).length < operandFuel other := by
                simp only [operandFuel, List.length_cons]
                omega
              rw [next_operand begins opens, next_operand begins opens]
              exact bind_congr_ok ((readsAlike size _ _).operand room.1 room.2) fun _ _ => rfl
          | word regular word =>
              have room : (byte :: start).length < fuel + 1 ∧ (byte :: start).length < other + 1 := by
                rw [List.length_cons]
                omega
              rw [next_word begins regular word, next_word begins regular word]
              exact bind_congr_ok (keywordToken_congr room.1 room.2) fun _ _ => rfl
          | stray different opens irregular =>
              rw [next_stray begins different opens irregular,
                next_stray begins different opens irregular]
              exact ih (by omega) (by omega)

end Content

end PdfElements
