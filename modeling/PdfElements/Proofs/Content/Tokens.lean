import PdfElements.Proofs.Content.Grammar

/-! What reading a token leaves of the bytes: an end of them, with at least one byte less. A token
that is read at all is read the same when more follows. -/

set_option autoImplicit false

namespace PdfElements.Content

variable {K : Type} [Scalar K]
variable {size fuel levels : Nat} {bytes tail rest : List UInt8}

theorem endsWord_append (bytes : List UInt8) (ends : endsWord tail = true) :
    endsWord (bytes ++ tail) = endsWord bytes := by
  cases bytes with
  | nil => exact ends
  | cons byte rest => rfl

theorem behind_operand {value : Operand K}
    (found : operand size fuel levels bytes = .ok (value, rest)) : Behind bytes rest :=
  ((readsSoundly size fuel).operand found).behind

theorem operand_append {value : Operand K}
    (found : operand size fuel levels bytes = .ok (value, rest)) (ends : endsWord tail = true)
    (longer more : Nat) (enough : 2 * (bytes ++ tail).length < more) :
    operand longer more levels (bytes ++ tail) = .ok (value, rest ++ tail) :=
  (((readsSoundly size fuel).operand found).append ends).readFrom longer enough

theorem behind_imageEntriesFrom {reversed entries : List (String × Operand K)}
    (found : imageEntriesFrom size fuel reversed bytes = .ok (entries, rest)) :
    Behind bytes rest := by
  induction fuel generalizing reversed bytes with
  | zero => cases found
  | succ fuel ih =>
      simp only [imageEntriesFrom] at found
      split at found
      · cases found
      · next start slash =>
          obtain ⟨⟨value, middle⟩, first, found⟩ := bind_ok found
          exact (behind_key slash).trans ((ih found).suffix.trans (behind_operand first).suffix)
      · next start marked =>
          refine .of_suffix (marked ▸ skipBlanks_suffix bytes) (.cons _ ?_)
          split at found
          · split at found
            · cases found
              exact List.nil_suffix
            · cases found
              refine List.IsSuffix.trans ?_ (List.suffix_cons _ _)
              split
              · exact List.suffix_cons _ _
              · exact List.suffix_refl _
          · cases found
      · cases found

/-- Entries read the same when more follows, unless the bytes end with the word before the data:
then there is no data in them. -/
theorem imageEntriesFrom_append {reversed entries : List (String × Operand K)}
    (found : imageEntriesFrom size fuel reversed bytes = .ok (entries, rest)) (data : rest ≠ [])
    (ends : endsWord tail = true) (longer more : Nat) (enough : (bytes ++ tail).length < more) :
    imageEntriesFrom longer more reversed (bytes ++ tail) = .ok (entries, rest ++ tail) := by
  induction fuel generalizing reversed bytes more with
  | zero => cases found
  | succ fuel ih =>
      obtain ⟨more, rfl⟩ := Nat.exists_eq_succ_of_ne_zero (Nat.ne_zero_of_lt enough)
      simp only [imageEntriesFrom] at found ⊢
      split at found
      · cases found
      · next start slash =>
          obtain ⟨⟨value, middle⟩, first, found⟩ := bind_ok found
          have within := (behind_key slash).shorter
          have shorter := (behind_operand first).shorter
          simp only [List.length_append] at enough
          cases begins : skipBlanks (name start).2 with
          | nil =>
              rw [begins] at shorter
              exact absurd shorter (Nat.not_lt_zero _)
          | cons byte behind =>
              have read := operand_append first ends longer (operandFuel more)
                (by simp only [operandFuel, List.length_append]; omega)
              have left := ih found more (by simp only [List.length_append]; omega)
              rw [begins] at read
              rw [skipBlanks_append slash tail]
              simp only [name_append start ends, skipBlanks_append begins tail]
              exact (bind_of_ok read _).trans left
      · next start marked =>
          rw [skipBlanks_append marked tail]
          split at found
          · next separate =>
              split at found
              · cases found
                exact absurd rfl data
              · cases found
                simp only [List.cons_append, endsWord] at separate ⊢
                simp only [separate, if_true]
                split <;> rfl
          · cases found
      · cases found

/-- A byte belongs to the data unless the word that ends them begins there. -/
theorem imageDataFrom_cons {reversed : List UInt8} {byte : UInt8}
    (inside : ∀ behind, byte = 0x45 → rest = 0x49 :: behind → startsWord reversed = true →
      endsWord behind = false) :
    imageDataFrom reversed (byte :: rest) = imageDataFrom (byte :: reversed) rest := by
  simp only [imageDataFrom]
  split
  · next behind =>
      split
      · next ending =>
          simp only [Bool.and_eq_true, decide_eq_true_eq] at ending
          obtain ⟨⟨first, starts⟩, ends⟩ := ending
          cases (inside behind first rfl starts).symm.trans ends
      · rfl
  · rfl

theorem behind_imageDataFrom {reversed data : List UInt8}
    (found : imageDataFrom reversed bytes = .ok (data, rest)) : Behind bytes rest := by
  induction bytes generalizing reversed with
  | nil => cases found
  | cons byte more ih =>
      simp only [imageDataFrom] at found
      split at found
      · split at found
        · cases found
          exact .cons _ (List.suffix_cons _ _)
        · exact .of_suffix (List.suffix_cons _ _) (ih found)
      · exact .of_suffix (List.suffix_cons _ _) (ih found)

theorem imageDataFrom_append {reversed data : List UInt8}
    (found : imageDataFrom reversed bytes = .ok (data, rest)) (ends : endsWord tail = true) :
    imageDataFrom reversed (bytes ++ tail) = .ok (data, rest ++ tail) := by
  induction bytes generalizing reversed with
  | nil => cases found
  | cons byte more ih =>
      simp only [imageDataFrom] at found
      split at found
      · next behind =>
          simp only [List.cons_append, imageDataFrom, endsWord_append behind ends]
          split at found
          · next ending =>
              cases found
              simp only [ending, if_true]
          · next inside =>
              simp only [inside]
              exact ih found
      · next other =>
          cases more with
          | nil => cases found
          | cons next behind =>
              simp only [List.cons_append, imageDataFrom]
              split
              · next same =>
                  cases same
                  exact absurd rfl (other _)
              · exact ih found

theorem behind_inlineImage {image : InlineImage K}
    (found : inlineImage size fuel bytes = .ok (image, rest)) : Behind bytes rest := by
  obtain ⟨⟨entries, start⟩, dictionary, found⟩ := bind_ok found
  obtain ⟨⟨data, left⟩, ending, same⟩ := bind_ok found
  cases same
  exact (behind_imageEntriesFrom dictionary).trans (behind_imageDataFrom ending).suffix

theorem inlineImage_append {image : InlineImage K}
    (found : inlineImage size fuel bytes = .ok (image, rest)) (ends : endsWord tail = true)
    (longer more : Nat) (enough : (bytes ++ tail).length < more) :
    inlineImage longer more (bytes ++ tail) = .ok (image, rest ++ tail) := by
  obtain ⟨⟨entries, start⟩, dictionary, found⟩ := bind_ok found
  obtain ⟨⟨data, left⟩, ending, same⟩ := bind_ok found
  cases same
  have some : start ≠ [] := by
    rintro rfl
    cases ending
  exact (bind_of_ok (imageEntriesFrom_append dictionary some ends longer more enough) _).trans
    (bind_of_ok (imageDataFrom_append ending ends) _)

/-- What a word stands for, other than the one that begins an image. -/
def wordToken (word : String) : Token K :=
  if word = "true" then .operand (.boolean true)
  else if word = "false" then .operand (.boolean false)
  else if word = "null" then .operand .null
  else .operator word

theorem keywordToken_of_ne (other : (keyword bytes).1 ≠ "BI") :
    keywordToken (K := K) size fuel bytes =
      .ok (wordToken (keyword bytes).1, (keyword bytes).2) := by
  simp only [keywordToken, wordToken, other, if_false]
  split
  · rfl
  · split
    · rfl
    · split <;> rfl

theorem keywordToken_of_eq (begins : (keyword bytes).1 = "BI") :
    keywordToken (K := K) size fuel bytes =
      inlineImage size fuel (keyword bytes).2 >>= fun read => .ok (.image read.1, read.2) := by
  have distinct : "BI" ≠ "true" ∧ "BI" ≠ "false" ∧ "BI" ≠ "null" := by decide
  simp only [keywordToken, begins, distinct, if_false, if_true]
  rfl

theorem behind_keywordToken {byte : UInt8} {token : Token K} (regular : isRegular byte = true)
    (found : keywordToken size fuel (byte :: bytes) = .ok (token, rest)) :
    Behind (byte :: bytes) rest := by
  have word := behind_keyword bytes regular
  by_cases begins : (keyword (byte :: bytes)).1 = "BI"
  · rw [keywordToken_of_eq begins] at found
    obtain ⟨⟨image, left⟩, read, same⟩ := bind_ok found
    cases same
    exact word.trans (behind_inlineImage read).suffix
  · rw [keywordToken_of_ne begins] at found
    cases found
    exact word

theorem keywordToken_append {token : Token K}
    (found : keywordToken size fuel bytes = .ok (token, rest)) (ends : endsWord tail = true)
    (longer more : Nat) (enough : (bytes ++ tail).length < more) :
    keywordToken longer more (bytes ++ tail) = .ok (token, rest ++ tail) := by
  have word := keyword_append bytes ends
  by_cases begins : (keyword bytes).1 = "BI"
  · rw [keywordToken_of_eq begins] at found
    obtain ⟨⟨image, left⟩, read, same⟩ := bind_ok found
    cases same
    have within : (keyword bytes).2.length ≤ bytes.length :=
      (List.dropWhile_suffix isRegular).length_le
    have read := inlineImage_append read ends longer more
      (by simp only [List.length_append] at enough ⊢; omega)
    rw [keywordToken_of_eq (by rw [word]; exact begins), word]
    exact bind_of_ok read _
  · rw [keywordToken_of_ne begins] at found
    cases found
    rw [keywordToken_of_ne (by rw [word]; exact begins), word]

/-! ### The byte that a token begins with -/

/-- What may stand behind white space: one or two closing brackets, an operand, a word, or a bracket
of another kind. -/
inductive FirstByte : UInt8 → List UInt8 → Prop where
  | angles {behind : List UInt8} : FirstByte 0x3E (0x3E :: behind)
  | angle {start : List UInt8} : start.head? ≠ some 0x3E → FirstByte 0x3E start
  | operand {byte : UInt8} {start : List UInt8} : opensOperand byte = true → FirstByte byte start
  | word {byte : UInt8} {start : List UInt8} :
      isRegular byte = true → beginsNumber byte = false → FirstByte byte start
  | stray {byte : UInt8} {start : List UInt8} :
      byte ≠ 0x3E → opensOperand byte = false → isRegular byte = false → FirstByte byte start

theorem firstByte (byte : UInt8) (start : List UInt8) : FirstByte byte start := by
  by_cases closing : byte = 0x3E
  · subst closing
    by_cases double : start.head? = some 0x3E
    · obtain ⟨behind, rfl⟩ := List.head?_eq_some_iff.mp double
      exact .angles
    · exact .angle double
  · cases opens : opensOperand byte with
    | true => exact .operand opens
    | false =>
        cases regular : isRegular byte with
        | true =>
            refine .word regular (Bool.eq_false_iff.mpr fun begins => ?_)
            simp [opensOperand, begins] at opens
        | false => exact .stray closing opens regular

section step

variable {start behind : List UInt8} {byte : UInt8}

theorem next_nil (found : skipBlanks bytes = []) : next? (K := K) size fuel bytes = .ok none := by
  cases fuel with
  | zero => rfl
  | succ fuel => simp only [next?, found]

theorem next_angles (found : skipBlanks bytes = 0x3E :: 0x3E :: behind) :
    next? (K := K) size (fuel + 1) bytes = next? size fuel behind := by
  simp only [next?, found, if_true]

theorem next_angle (found : skipBlanks bytes = 0x3E :: start) (single : start.head? ≠ some 0x3E) :
    next? (K := K) size (fuel + 1) bytes = next? size fuel start := by
  simp only [next?, found, if_true]
  split
  · exact absurd rfl single
  · rfl

theorem next_operand (found : skipBlanks bytes = byte :: start)
    (opens : opensOperand byte = true) :
    next? (K := K) size (fuel + 1) bytes =
      operand size (operandFuel fuel) nestingLimit (byte :: start) >>= fun read =>
        .ok (some (.operand read.1, read.2)) := by
  have other : byte ≠ 0x3E := by
    rintro rfl
    cases opens
  simp only [next?, found, other, opens, if_true, if_false]
  rfl

theorem next_word (found : skipBlanks bytes = byte :: start) (regular : isRegular byte = true)
    (word : beginsNumber byte = false) :
    next? (K := K) size (fuel + 1) bytes =
      keywordToken size (fuel + 1) (byte :: start) >>= fun read => .ok (some read) := by
  have other : byte ≠ 0x3E := by
    rintro rfl
    cases regular
  have opens : opensOperand byte = false := by
    simp [opensOperand, ne_of_isRegular regular, word]
  simp only [next?, found, other, opens, regular, if_true, if_false]
  rfl

theorem next_stray (found : skipBlanks bytes = byte :: start) (other : byte ≠ 0x3E)
    (opens : opensOperand byte = false) (irregular : isRegular byte = false) :
    next? (K := K) size (fuel + 1) bytes = next? size fuel start := by
  simp only [next?, found, other, opens, irregular, if_false, Bool.false_eq_true]

end step

theorem next_cases {token : Token K} (found : next? size fuel bytes = .ok (some (token, rest))) :
    ∃ (start : List UInt8) (more : Nat), start <:+ bytes ∧
      ((∃ value, token = .operand value ∧
          operand size more nestingLimit start = .ok (value, rest)) ∨
        (∃ byte behind, start = byte :: behind ∧ isRegular byte = true ∧
          keywordToken size more start = .ok (token, rest))) := by
  induction fuel generalizing bytes with
  | zero => cases found
  | succ fuel ih =>
      have suffix := skipBlanks_suffix bytes
      cases begins : skipBlanks bytes with
      | nil =>
          rw [next_nil begins] at found
          cases found
      | cons byte start =>
          rw [begins] at suffix
          have onward := (List.suffix_cons byte start).trans suffix
          cases firstByte byte start with
          | angles =>
              rw [next_angles begins] at found
              obtain ⟨first, more, within, read⟩ := ih found
              exact ⟨first, more, within.trans ((List.suffix_cons _ _).trans onward), read⟩
          | angle single =>
              rw [next_angle begins single] at found
              obtain ⟨first, more, within, read⟩ := ih found
              exact ⟨first, more, within.trans onward, read⟩
          | operand opens =>
              rw [next_operand begins opens] at found
              obtain ⟨⟨value, left⟩, read, same⟩ := bind_ok found
              cases same
              exact ⟨_, _, suffix, .inl ⟨value, rfl, read⟩⟩
          | word regular word =>
              rw [next_word begins regular word] at found
              obtain ⟨⟨token, left⟩, read, same⟩ := bind_ok found
              cases same
              exact ⟨_, _, suffix, .inr ⟨byte, start, rfl, regular, read⟩⟩
          | stray other opens irregular =>
              rw [next_stray begins other opens irregular] at found
              obtain ⟨first, more, within, read⟩ := ih found
              exact ⟨first, more, within.trans onward, read⟩

theorem behind_next {token : Token K}
    (found : next? size fuel bytes = .ok (some (token, rest))) : Behind bytes rest := by
  obtain ⟨_, _, suffix, ⟨_, _, read⟩ | ⟨_, _, rfl, regular, read⟩⟩ := next_cases found
  · exact .of_suffix suffix (behind_operand read)
  · exact .of_suffix suffix (behind_keywordToken regular read)

theorem next_append {token : Token K}
    (found : next? size fuel bytes = .ok (some (token, rest))) (ends : endsWord tail = true)
    (longer more : Nat) (enough : (bytes ++ tail).length < more) :
    next? longer more (bytes ++ tail) = .ok (some (token, rest ++ tail)) := by
  induction fuel generalizing bytes more with
  | zero => cases found
  | succ fuel ih =>
      obtain ⟨more, rfl⟩ := Nat.exists_eq_succ_of_ne_zero (Nat.ne_zero_of_lt enough)
      have within := (skipBlanks_suffix bytes).length_le
      rw [List.length_append] at enough
      cases begins : skipBlanks bytes with
      | nil =>
          rw [next_nil begins] at found
          cases found
      | cons byte start =>
          have beginsSame := skipBlanks_append begins tail
          rw [begins, List.length_cons] at within
          cases firstByte byte start with
          | angles =>
              rw [List.length_cons] at within
              rw [next_angles begins] at found
              rw [next_angles beginsSame]
              exact ih found more (by rw [List.length_append]; omega)
          | angle single =>
              rw [next_angle begins single] at found
              cases start with
              | nil =>
                  rw [next_nil rfl] at found
                  cases found
              | cons second behind =>
                  rw [next_angle beginsSame single]
                  exact ih found more (by rw [List.length_append]; omega)
          | operand opens =>
              rw [next_operand begins opens] at found
              obtain ⟨⟨value, left⟩, read, same⟩ := bind_ok found
              cases same
              have readSame := operand_append read ends longer (operandFuel more)
                (by simp only [operandFuel, List.length_append, List.length_cons]; omega)
              rw [next_operand beginsSame opens]
              exact bind_of_ok readSame _
          | word regular word =>
              rw [next_word begins regular word] at found
              obtain ⟨⟨token, left⟩, read, same⟩ := bind_ok found
              cases same
              have readSame := keywordToken_append read ends longer (more + 1)
                (by simp only [List.length_append, List.length_cons]; omega)
              rw [next_word beginsSame regular word]
              exact bind_of_ok readSame _
          | stray other opens irregular =>
              rw [next_stray begins other opens irregular] at found
              rw [next_stray beginsSame other opens irregular]
              exact ih found more (by rw [List.length_append]; omega)

theorem tokensFrom_error {fault : LexFault} (read : Array (Token K))
    (found : next? (K := K) size (fuel + 1) bytes = .error fault) :
    tokensFrom size (fuel + 1) read bytes = ⟨read, some fault⟩ := by
  simp only [tokensFrom, found]

theorem tokensFrom_none (read : Array (Token K))
    (found : next? (K := K) size (fuel + 1) bytes = .ok none) :
    tokensFrom size (fuel + 1) read bytes = ⟨read, none⟩ := by
  simp only [tokensFrom, found]

theorem tokensFrom_token {token : Token K} {rest : List UInt8} (read : Array (Token K))
    (found : next? size (fuel + 1) bytes = .ok (some (token, rest))) :
    tokensFrom size (fuel + 1) read bytes = tokensFrom size fuel (read.push token) rest := by
  simp only [tokensFrom, found]

theorem tokensFrom_read (read : Array (Token K)) (bytes : List UInt8) :
    tokensFrom size fuel read bytes =
      ⟨read ++ (tokensFrom size fuel #[] bytes).tokens,
        (tokensFrom (K := K) size fuel #[] bytes).fault?⟩ := by
  induction fuel generalizing read bytes with
  | zero => simp [tokensFrom]
  | succ fuel ih =>
      simp only [tokensFrom]
      split
      · simp
      · simp
      · next token rest _ =>
          rw [ih (read.push token), ih (#[].push token)]
          simp

theorem read_prefix_tokensFrom (read : Array (Token K)) (bytes : List UInt8) :
    read.toList <+: (tokensFrom size fuel read bytes).tokens.toList := by
  rw [tokensFrom_read, Array.toList_append]
  exact List.prefix_append _ _

/-- Whether the bytes end the stream or more follow, and wherever the lexer fails: the tokens in
them are the same. -/
theorem tokensFrom_prefix (read : Array (Token K)) (bytes : List UInt8)
    (ends : endsWord tail = true) (longer more : Nat) (enough : (bytes ++ tail).length < more) :
    (tokensFrom size fuel read bytes).tokens.toList <+:
      (tokensFrom longer more read (bytes ++ tail)).tokens.toList := by
  induction fuel generalizing read bytes more with
  | zero => exact read_prefix_tokensFrom read _
  | succ fuel ih =>
      simp only [tokensFrom]
      split
      · exact read_prefix_tokensFrom read _
      · exact read_prefix_tokensFrom read _
      · next token rest found =>
          obtain ⟨more, rfl⟩ := Nat.exists_eq_succ_of_ne_zero (Nat.ne_zero_of_lt enough)
          have shorter := (behind_next found).shorter
          rw [tokensFrom_token read (next_append found ends longer (more + 1) enough)]
          simp only [List.length_append] at enough
          exact ih (read.push token) rest more (by simp only [List.length_append]; omega)

theorem endsWord_of_isBlank {byte : UInt8} (blank : isBlank byte = true) (rest : List UInt8) :
    endsWord (byte :: rest) = true := by
  simp [endsWord, isRegular, blank]

end PdfElements.Content
