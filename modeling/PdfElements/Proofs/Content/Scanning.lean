import PdfElements.Proofs.Content.Reading
import PdfElements.Proofs.Result

/-! What scanners leave of the bytes that they read. Each leaves an end of them, and reads the same
when further bytes follow: strings in any case, words and numbers when what follows ends a word. -/

set_option autoImplicit false

namespace PdfElements

namespace Content

/-- What is left of bytes of which at least one was read. -/
structure Behind (bytes rest : List UInt8) : Prop where
  suffix : rest <:+ bytes
  shorter : rest.length < bytes.length

namespace Behind

theorem cons (byte : UInt8) {bytes rest : List UInt8} (suffix : rest <:+ bytes) :
    Behind (byte :: bytes) rest :=
  ⟨suffix.trans (List.suffix_cons byte bytes), Nat.lt_succ_of_le suffix.length_le⟩

theorem trans {bytes middle rest : List UInt8} (first : Behind bytes middle)
    (second : rest <:+ middle) : Behind bytes rest :=
  ⟨second.trans first.suffix, Nat.lt_of_le_of_lt second.length_le first.shorter⟩

theorem of_suffix {bytes middle rest : List UInt8} (suffix : middle <:+ bytes)
    (behind : Behind middle rest) : Behind bytes rest :=
  ⟨behind.suffix.trans suffix, Nat.lt_of_lt_of_le behind.shorter suffix.length_le⟩

end Behind

variable {tail : List UInt8}

theorem skip_suffix (inComment : Bool) (bytes : List UInt8) : skip inComment bytes <:+ bytes := by
  induction bytes generalizing inComment with
  | nil => exact List.suffix_refl []
  | cons byte rest ih =>
      simp only [skip]
      split
      · exact (ih _).trans (List.suffix_cons byte rest)
      · split
        · exact (ih _).trans (List.suffix_cons byte rest)
        · split
          · exact (ih _).trans (List.suffix_cons byte rest)
          · exact List.suffix_refl (byte :: rest)

theorem skip_append {inComment : Bool} {bytes : List UInt8} (left : skip inComment bytes ≠ [])
    (tail : List UInt8) : skip inComment (bytes ++ tail) = skip inComment bytes ++ tail := by
  induction bytes generalizing inComment with
  | nil => exact absurd rfl left
  | cons byte rest ih =>
      simp only [skip, List.cons_append] at left ⊢
      split at left
      · next comment => simp [comment, ih left]
      · next code =>
          split at left
          · next blank => simp [code, blank, ih left]
          · next word =>
              split at left
              · next percent =>
                  subst percent
                  simp [code, word, ih left]
              · next other => simp [code, word, other]

theorem skipBlanks_suffix (bytes : List UInt8) : skipBlanks bytes <:+ bytes :=
  skip_suffix false bytes

theorem skipBlanks_append {bytes start : List UInt8} {byte : UInt8}
    (found : skipBlanks bytes = byte :: start) (tail : List UInt8) :
    skipBlanks (bytes ++ tail) = byte :: (start ++ tail) := by
  have left : skip false bytes ≠ [] := by
    intro nothing
    cases nothing.symm.trans found
  exact (skip_append left tail).trans (congrArg (· ++ tail) found)

namespace Literal

theorem behind_scan {literal : Literal} {bytes value rest : List UInt8}
    (scanned : literal.scan bytes = .ok (value, rest)) : Behind bytes rest := by
  induction bytes generalizing literal with
  | nil => cases scanned
  | cons byte more ih =>
      simp only [scan] at scanned
      split at scanned
      · exact .of_suffix (List.suffix_cons byte more) (ih scanned)
      · cases scanned
        exact .cons byte (List.suffix_refl _)

theorem scan_append {literal : Literal} {bytes value rest : List UInt8}
    (scanned : literal.scan bytes = .ok (value, rest)) (tail : List UInt8) :
    literal.scan (bytes ++ tail) = .ok (value, rest ++ tail) := by
  induction bytes generalizing literal with
  | nil => cases scanned
  | cons byte more ih =>
      simp only [scan, List.cons_append] at scanned ⊢
      split at scanned
      · exact ih scanned
      · cases scanned
        rfl

end Literal

theorem behind_hexadecimalFrom {reversed bytes value rest : List UInt8}
    (scanned : hexadecimalFrom reversed bytes = .ok (value, rest)) : Behind bytes rest := by
  induction bytes generalizing reversed with
  | nil => cases scanned
  | cons byte more ih =>
      simp only [hexadecimalFrom] at scanned
      split at scanned
      · cases scanned
        exact .cons byte (List.suffix_refl _)
      · split at scanned
        · exact .of_suffix (List.suffix_cons byte more) (ih scanned)
        · split at scanned
          · exact .of_suffix (List.suffix_cons byte more) (ih scanned)
          · cases scanned

theorem hexadecimalFrom_append {reversed bytes value rest : List UInt8}
    (scanned : hexadecimalFrom reversed bytes = .ok (value, rest)) (tail : List UInt8) :
    hexadecimalFrom reversed (bytes ++ tail) = .ok (value, rest ++ tail) := by
  induction bytes generalizing reversed with
  | nil => cases scanned
  | cons byte more ih =>
      simp only [hexadecimalFrom, List.cons_append] at scanned ⊢
      split at scanned
      · next last =>
          cases scanned
          simp only [last, if_true]
      · next inside =>
          split at scanned
          · next blank => simp [inside, blank, ih scanned]
          · next digit =>
              split at scanned
              · next value found =>
                  simp [inside, digit, ih scanned]
              · cases scanned

theorem takeWhile_append_of_endsWord {accepts : UInt8 → Bool}
    (regular : ∀ byte, accepts byte = true → isRegular byte = true) (bytes : List UInt8)
    (ends : endsWord tail = true) :
    (bytes ++ tail).takeWhile accepts = bytes.takeWhile accepts := by
  induction bytes with
  | nil =>
      cases tail with
      | nil => rfl
      | cons byte more =>
          have refused : ¬ accepts byte = true := fun accepted => by
            simp [endsWord, regular byte accepted] at ends
          exact List.takeWhile_cons_of_neg refused
  | cons byte rest ih =>
      cases accepted : accepts byte with
      | false => simp [accepted]
      | true => simp [accepted, ih]

theorem dropWhile_append_of_endsWord {accepts : UInt8 → Bool}
    (regular : ∀ byte, accepts byte = true → isRegular byte = true) (bytes : List UInt8)
    (ends : endsWord tail = true) :
    (bytes ++ tail).dropWhile accepts = bytes.dropWhile accepts ++ tail := by
  induction bytes with
  | nil =>
      cases tail with
      | nil => rfl
      | cons byte more =>
          have refused : ¬ accepts byte = true := fun accepted => by
            simp [endsWord, regular byte accepted] at ends
          exact List.dropWhile_cons_of_neg refused
  | cons byte rest ih =>
      cases accepted : accepts byte with
      | false => simp [accepted]
      | true => simp [accepted, ih]

theorem name_append (bytes : List UInt8) (ends : endsWord tail = true) :
    name (bytes ++ tail) = ((name bytes).1, (name bytes).2 ++ tail) := by
  simp only [name, takeWhile_append_of_endsWord (fun _ => id) bytes ends,
    dropWhile_append_of_endsWord (fun _ => id) bytes ends]

theorem keyword_append (bytes : List UInt8) (ends : endsWord tail = true) :
    keyword (bytes ++ tail) = ((keyword bytes).1, (keyword bytes).2 ++ tail) := by
  simp only [keyword, takeWhile_append_of_endsWord (fun _ => id) bytes ends,
    dropWhile_append_of_endsWord (fun _ => id) bytes ends]

theorem behind_key {bytes start : List UInt8} (slash : skipBlanks bytes = 0x2F :: start) :
    Behind bytes (skipBlanks (name start).2) :=
  .of_suffix (slash ▸ skipBlanks_suffix bytes)
    (.cons _ ((skipBlanks_suffix _).trans (List.dropWhile_suffix isRegular)))

theorem forall_byte {property : UInt8 → Prop} (holds : ∀ n < 256, property (UInt8.ofNat n))
    (byte : UInt8) : property byte := by
  simpa only [UInt8.ofNat_toNat] using holds byte.toNat byte.toNat_lt

theorem isRegular_of_beginsNumber : ∀ byte, beginsNumber byte = true → isRegular byte = true :=
  forall_byte (by decide +kernel)

theorem isSign_of_isDigit : ∀ byte, isDigit byte = true → isSign byte = false :=
  forall_byte (by decide +kernel)

theorem isRegular_of_isDigit (byte : UInt8) (digit : isDigit byte = true) :
    isRegular byte = true :=
  isRegular_of_beginsNumber byte (by simp [beginsNumber, digit])

theorem isRegular_of_isSign (byte : UInt8) (sign : isSign byte = true) :
    isRegular byte = true :=
  isRegular_of_beginsNumber byte (by simp [beginsNumber, sign])

variable {K : Type} [Scalar K]

theorem number_point {bytes behind : List UInt8}
    (point : (bytes.dropWhile isSign).dropWhile isDigit = 0x2E :: behind) :
    let digits := (bytes.dropWhile isSign).takeWhile isDigit ++ behind.takeWhile isDigit
    number (K := K) bytes =
      (if digits.isEmpty then .integer 0
        else realOperand (bytes.head? == some 0x2D) digits (behind.takeWhile isDigit).length,
      behind.dropWhile isDigit) := by
  simp only [number, point]

theorem number_whole {bytes : List UInt8}
    (whole : ((bytes.dropWhile isSign).dropWhile isDigit).head? ≠ some 0x2E) :
    let digits := (bytes.dropWhile isSign).takeWhile isDigit
    number (K := K) bytes =
      (if digits.isEmpty then .integer 0
        else integerOperand (bytes.head? == some 0x2D) digits,
      (bytes.dropWhile isSign).dropWhile isDigit) := by
  simp only [number]
  split
  · next point => exact absurd (congrArg List.head? point) whole
  · rfl

theorem head?_ne_of_endsWord (byte : UInt8) (regular : isRegular byte = true)
    (ends : endsWord tail = true) : tail.head? ≠ some byte := by
  intro first
  cases tail with
  | nil => cases first
  | cons other more =>
      cases first
      simp [endsWord, regular] at ends

theorem number_append (bytes : List UInt8) (ends : endsWord tail = true) :
    number (K := K) (bytes ++ tail) =
      ((number (K := K) bytes).1, (number (K := K) bytes).2 ++ tail) := by
  have sign : ((bytes ++ tail).head? == some 0x2D) = (bytes.head? == some 0x2D) := by
    cases bytes with
    | nil => simpa using head?_ne_of_endsWord 0x2D (by decide) ends
    | cons byte rest => rfl
  have unsigned := dropWhile_append_of_endsWord isRegular_of_isSign bytes ends
  have whole := takeWhile_append_of_endsWord isRegular_of_isDigit (bytes.dropWhile isSign) ends
  have rest := dropWhile_append_of_endsWord isRegular_of_isDigit (bytes.dropWhile isSign) ends
  by_cases point : ∃ behind, (bytes.dropWhile isSign).dropWhile isDigit = 0x2E :: behind
  · obtain ⟨behind, point⟩ := point
    have pointed : ((bytes ++ tail).dropWhile isSign).dropWhile isDigit =
        0x2E :: (behind ++ tail) := by
      rw [unsigned, rest, point, List.cons_append]
    rw [number_point point, number_point pointed, sign, unsigned, whole,
      takeWhile_append_of_endsWord isRegular_of_isDigit behind ends,
      dropWhile_append_of_endsWord isRegular_of_isDigit behind ends]
  · have noPoint : ((bytes.dropWhile isSign).dropWhile isDigit).head? ≠ some 0x2E := by
      intro first
      obtain ⟨behind, found⟩ := List.head?_eq_some_iff.mp first
      exact point ⟨behind, found⟩
    have noPointBehind : (((bytes ++ tail).dropWhile isSign).dropWhile isDigit).head? ≠
        some 0x2E := by
      rw [unsigned, rest, List.head?_append]
      cases first : ((bytes.dropWhile isSign).dropWhile isDigit).head? with
      | none => simpa using head?_ne_of_endsWord 0x2E (by decide) ends
      | some byte => simpa [first] using noPoint
    rw [number_whole noPoint, number_whole noPointBehind, sign, unsigned, whole, rest]

theorem number_suffix (bytes : List UInt8) :
    (number (K := K) bytes).2 <:+ (bytes.dropWhile isSign).dropWhile isDigit := by
  by_cases point : ∃ behind, (bytes.dropWhile isSign).dropWhile isDigit = 0x2E :: behind
  · obtain ⟨behind, point⟩ := point
    rw [number_point point, point]
    exact (List.dropWhile_suffix isDigit).trans (List.suffix_cons 0x2E behind)
  · simp only [number]
    split
    · next behind found => exact absurd ⟨behind, found⟩ point
    · exact List.suffix_refl _

theorem behind_number {byte : UInt8} (bytes : List UInt8) (begins : beginsNumber byte = true) :
    Behind (byte :: bytes) (number (K := K) (byte :: bytes)).2 := by
  have suffix := number_suffix (K := K) (byte :: bytes)
  by_cases sign : isSign byte = true
  · rw [List.dropWhile_cons_of_pos sign] at suffix
    exact .cons byte (suffix.trans
      ((List.dropWhile_suffix isDigit).trans (List.dropWhile_suffix isSign)))
  · rw [List.dropWhile_cons_of_neg sign] at suffix
    by_cases digit : isDigit byte = true
    · rw [List.dropWhile_cons_of_pos digit] at suffix
      exact .cons byte (suffix.trans (List.dropWhile_suffix isDigit))
    · have point : byte = 0x2E := by simpa [beginsNumber, sign, digit] using begins
      have pointed : ((byte :: bytes).dropWhile isSign).dropWhile isDigit = 0x2E :: bytes := by
        rw [List.dropWhile_cons_of_neg sign, List.dropWhile_cons_of_neg digit, point]
      rw [number_point pointed]
      exact .cons byte (List.dropWhile_suffix isDigit)

theorem behind_keyword {byte : UInt8} (bytes : List UInt8) (regular : isRegular byte = true) :
    Behind (byte :: bytes) (keyword (byte :: bytes)).2 := by
  simp only [keyword, List.dropWhile_cons_of_pos regular]
  exact .cons byte (List.dropWhile_suffix isRegular)

end Content

end PdfElements
