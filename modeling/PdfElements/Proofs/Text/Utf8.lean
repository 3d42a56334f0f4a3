import PdfElements.Text.Utf8

/-! Text that is written as UTF-8 is read as the same text. -/

set_option autoImplicit false

namespace PdfElements.Text

theorem startChar_one : ∀ value < 128,
    startChar (UInt8.ofNat value) = ([Char.ofNat value], none) := by
  decide +kernel

theorem startChar_two : ∀ high < 32, 2 ≤ high →
    startChar (UInt8.ofNat (high + 192)) = ([], some ⟨high, 1, 0x80, 0xBF⟩) := by
  decide +kernel

theorem startChar_three : ∀ high < 16,
    startChar (UInt8.ofNat (high + 224)) =
      ([], some ⟨high, 2, if high = 0 then 0xA0 else 0x80, if high = 13 then 0x9F else 0xBF⟩) := by
  decide +kernel

theorem startChar_four : ∀ high < 5,
    startChar (UInt8.ofNat (high + 240)) =
      ([], some ⟨high, 3, if high = 0 then 0x90 else 0x80, if high = 4 then 0x8F else 0xBF⟩) := by
  decide +kernel

theorem push_continuation {bits missing low : Nat} {least greatest : UInt8} (small : low < 64)
    (above : least.toNat ≤ low + 128) (below : low + 128 ≤ greatest.toNat) :
    (Partial.mk bits missing least greatest).push (UInt8.ofNat (low + 128)) =
      if missing ≤ 1 then ([Char.ofNat (bits * 64 + low)], none)
      else ([], some ⟨bits * 64 + low, missing - 1, 0x80, 0xBF⟩) := by
  have value : (UInt8.ofNat (low + 128)).toNat = low + 128 := by
    simp only [UInt8.toNat_ofNat']
    omega
  have fits : least ≤ UInt8.ofNat (low + 128) ∧ UInt8.ofNat (low + 128) ≤ greatest := by
    simp only [UInt8.le_iff_toNat_le, value]
    exact ⟨above, below⟩
  have bits : (low + 128) % 64 = low := by omega
  simp only [Partial.push, fits, value, bits, decide_true, Bool.and_self, if_true]

theorem push_last (bits : Nat) {low : Nat} (small : low < 64) :
    (Partial.mk bits 1 0x80 0xBF).push (UInt8.ofNat (low + 128)) =
      ([Char.ofNat (bits * 64 + low)], none) := by
  have below : low + 128 ≤ 191 := by omega
  refine (push_continuation small ?_ ?_).trans rfl
  · exact Nat.le_add_left 128 low
  · exact below

theorem push_third_of_four (bits : Nat) {low : Nat} (small : low < 64) :
    (Partial.mk bits 2 0x80 0xBF).push (UInt8.ofNat (low + 128)) =
      ([], some ⟨bits * 64 + low, 1, 0x80, 0xBF⟩) := by
  have below : low + 128 ≤ 191 := by omega
  refine (push_continuation small ?_ ?_).trans rfl
  · exact Nat.le_add_left 128 low
  · exact below

/-- The second byte of three. It is above others where fewer bytes would do, and below others where
surrogates begin. -/
theorem push_second_of_three {value : Nat} (large : 2047 < value) (small : value ≤ 65535)
    (valid : value < 0xD800 ∨ 0xDFFF < value) :
    (Partial.mk (value / 4096 % 16) 2 (if value / 4096 % 16 = 0 then 0xA0 else 0x80)
        (if value / 4096 % 16 = 13 then 0x9F else 0xBF)).push
      (UInt8.ofNat (value / 64 % 64 + 128)) =
      ([], some ⟨value / 4096 % 16 * 64 + value / 64 % 64, 1, 0x80, 0xBF⟩) := by
  refine (push_continuation (Nat.mod_lt _ (by decide)) ?_ ?_).trans rfl
  · split
    · have above : 160 ≤ value / 64 % 64 + 128 := by omega
      exact above
    · exact Nat.le_add_left 128 _
  · split
    · have below : value / 64 % 64 + 128 ≤ 159 := by omega
      exact below
    · have below : value / 64 % 64 + 128 ≤ 191 := by omega
      exact below

/-- The second byte of four. It is above others where three bytes would do, and below others where
code points end. -/
theorem push_second_of_four {value : Nat} (large : 65535 < value) (small : value < 0x110000) :
    (Partial.mk (value / 262144 % 8) 3 (if value / 262144 % 8 = 0 then 0x90 else 0x80)
        (if value / 262144 % 8 = 4 then 0x8F else 0xBF)).push
      (UInt8.ofNat (value / 4096 % 64 + 128)) =
      ([], some ⟨value / 262144 % 8 * 64 + value / 4096 % 64, 2, 0x80, 0xBF⟩) := by
  refine (push_continuation (Nat.mod_lt _ (by decide)) ?_ ?_).trans rfl
  · split
    · have above : 144 ≤ value / 4096 % 64 + 128 := by omega
      exact above
    · exact Nat.le_add_left 128 _
  · split
    · have below : value / 4096 % 64 + 128 ≤ 143 := by omega
      exact below
    · have below : value / 4096 % 64 + 128 ≤ 191 := by omega
      exact below

theorem decodeChars_encodeChar (char : Char) (rest : List UInt8) :
    decodeChars none (String.utf8EncodeChar char ++ rest) = char :: decodeChars none rest := by
  have same : Char.ofNat char.val.toNat = char := char.ofNat_toNat
  have valid : char.val.toNat < 0xD800 ∨ 0xDFFF < char.val.toNat ∧ char.val.toNat < 0x110000 :=
    char.valid
  rw [String.utf8EncodeChar]
  generalize char.val.toNat = value at *
  split
  · next one =>
      have start := startChar_one value (by omega)
      simp only [List.cons_append, List.nil_append, decodeChars, start, same]
  split
  · next many two =>
      have start := startChar_two (value / 64 % 32) (by omega) (by omega)
      have last := push_last (value / 64 % 32) (Nat.mod_lt value (by decide : 64 > 0))
      have whole : value / 64 % 32 * 64 + value % 64 = value := by omega
      simp only [List.cons_append, List.nil_append, decodeChars, start, last, whole, same]
  split
  · next many three =>
      have start := startChar_three (value / 4096 % 16) (by omega)
      have second := push_second_of_three (by omega) three (by omega)
      have last := push_last (value / 4096 % 16 * 64 + value / 64 % 64)
        (Nat.mod_lt value (by decide : 64 > 0))
      have whole : (value / 4096 % 16 * 64 + value / 64 % 64) * 64 + value % 64 = value := by omega
      simp only [List.cons_append, List.nil_append, decodeChars, start, second, last, whole, same]
  · next many =>
      have start := startChar_four (value / 262144 % 8) (by omega)
      have second := push_second_of_four (by omega) (by omega : value < 0x110000)
      have third := push_third_of_four (value / 262144 % 8 * 64 + value / 4096 % 64)
        (Nat.mod_lt (value / 64) (by decide : 64 > 0))
      have last := push_last ((value / 262144 % 8 * 64 + value / 4096 % 64) * 64 + value / 64 % 64)
        (Nat.mod_lt value (by decide : 64 > 0))
      have whole : ((value / 262144 % 8 * 64 + value / 4096 % 64) * 64 + value / 64 % 64) * 64 +
          value % 64 = value := by omega
      simp only [List.cons_append, List.nil_append, decodeChars, start, second, third, last, whole,
        same]

theorem decodeUtf8_encodeUtf8 (text : String) : decodeUtf8 (encodeUtf8 text) = text := by
  have chars (chars : List Char) :
      decodeChars none (chars.flatMap String.utf8EncodeChar) = chars := by
    induction chars with
    | nil => rfl
    | cons char rest ih => rw [List.flatMap_cons, decodeChars_encodeChar, ih]
  unfold decodeUtf8 encodeUtf8
  rw [chars, String.ofList_toList]

theorem encodeUtf8_append (first second : String) :
    encodeUtf8 (first ++ second) = encodeUtf8 first ++ encodeUtf8 second := by
  simp [encodeUtf8]

end PdfElements.Text
