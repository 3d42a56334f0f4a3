import PdfElements.Text.Utf16

/-! Text that is written as UTF-16 is read as the same text. -/

set_option autoImplicit false

namespace PdfElements.Text

def characterUnits (character : Char) : List UInt16 :=
  if character.toNat < 0x10000 then [UInt16.ofNat character.toNat]
  else
    let beyond := character.toNat - 0x10000
    [UInt16.ofNat (0xD800 + beyond / 0x400), UInt16.ofNat (0xDC00 + beyond % 0x400)]

def utf16Units (text : String) : List UInt16 := text.toList.flatMap characterUnits

def unitBytes (unit : UInt16) : List UInt8 :=
  [UInt8.ofNat (unit.toNat / 256), UInt8.ofNat (unit.toNat % 256)]

def encodeUtf16 (text : String) : List UInt8 := (utf16Units text).flatMap unitBytes

theorem length_unitBytes (units : List UInt16) :
    (units.flatMap unitBytes).length = 2 * units.length := by
  induction units with
  | nil => rfl
  | cons unit rest ih =>
      simp only [List.flatMap_cons, List.length_append, ih, unitBytes, List.length_cons,
        List.length_nil]
      omega

theorem join_unitBytes (unit : UInt16) :
    (UInt8.ofNat (unit.toNat / 256)).toUInt16 <<< 8 |||
      (UInt8.ofNat (unit.toNat % 256)).toUInt16 = unit := by
  have high : unit.toNat / 256 < 256 := Nat.div_lt_of_lt_mul unit.toNat_lt
  have low : unit.toNat % 256 < 2 ^ 8 := Nat.mod_lt _ (by decide)
  have parts : 2 ^ 8 * (unit.toNat / 256) + unit.toNat % 256 = unit.toNat :=
    Nat.div_add_mod unit.toNat 256
  apply UInt16.toNat_inj.mp
  simp only [UInt16.toNat_or, UInt16.toNat_shiftLeft, UInt8.toNat_toUInt16, UInt8.toNat_ofNat',
    UInt16.reduceToNat, Nat.reduceMod, Nat.mod_eq_of_lt high]
  rw [Nat.shiftLeft_eq, Nat.mod_eq_of_lt (by omega), Nat.mul_comm, Nat.mod_mod,
    ← Nat.two_pow_add_eq_or_of_lt low, parts]

theorem bigEndianUnits_unitBytes (units : List UInt16) :
    bigEndianUnits (units.flatMap unitBytes) = units := by
  induction units with
  | nil => rfl
  | cons unit rest ih =>
      simp only [List.flatMap_cons, unitBytes, List.cons_append, List.nil_append, bigEndianUnits,
        join_unitBytes]
      exact congrArg (List.cons unit) ih

/-- A unit that is no surrogate is a character, whatever follows. -/
theorem unitChars_single {unit : UInt16} (plain : unit.toNat < 0xD800 ∨ 0xDFFF < unit.toNat)
    (rest : List UInt16) : unitChars (unit :: rest) = Char.ofNat unit.toNat :: unitChars rest := by
  have notHigh : isHighSurrogate unit = false := by
    simp [isHighSurrogate, UInt16.le_iff_toNat_le]
    omega
  have notLow : isLowSurrogate unit = false := by
    simp [isLowSurrogate, UInt16.le_iff_toNat_le]
    omega
  cases rest with
  | nil => simp [unitChars, notHigh, notLow]
  | cons next rest => simp [unitChars, notHigh, notLow]

theorem unitChars_pair {high low : UInt16} (isHigh : isHighSurrogate high = true)
    (isLow : isLowSurrogate low = true) (rest : List UInt16) :
    unitChars (high :: low :: rest) = pairChar high low :: unitChars rest := by
  simp [unitChars, isHigh, isLow]

theorem unitChars_characterUnits (character : Char) (rest : List UInt16) :
    unitChars (characterUnits character ++ rest) = character :: unitChars rest := by
  have same : Char.ofNat character.toNat = character := character.ofNat_toNat
  have valid : character.toNat < 0xD800 ∨
      0xDFFF < character.toNat ∧ character.toNat < 0x110000 := character.valid
  unfold characterUnits
  split
  · next small =>
      have value : (UInt16.ofNat character.toNat).toNat = character.toNat := by
        simp only [UInt16.toNat_ofNat']
        omega
      rw [List.singleton_append, unitChars_single (by omega), value, same]
  · next large =>
      generalize beyond : character.toNat - 0x10000 = distance
      have high : (UInt16.ofNat (0xD800 + distance / 0x400)).toNat = 0xD800 + distance / 0x400 := by
        simp only [UInt16.toNat_ofNat']
        omega
      have low : (UInt16.ofNat (0xDC00 + distance % 0x400)).toNat = 0xDC00 + distance % 0x400 := by
        simp only [UInt16.toNat_ofNat']
        omega
      dsimp only
      rw [List.cons_append, List.singleton_append, unitChars_pair]
      · rw [pairChar, high, low, show 0x10000 + (0xD800 + distance / 0x400 - 0xD800) * 0x400 +
          (0xDC00 + distance % 0x400 - 0xDC00) = character.toNat by omega, same]
      · simp [isHighSurrogate, UInt16.le_iff_toNat_le]
        omega
      · simp [isLowSurrogate, UInt16.le_iff_toNat_le]
        omega

theorem decodeUtf16_utf16Units (text : String) : decodeUtf16 (utf16Units text) = text := by
  have chars (chars : List Char) : unitChars (chars.flatMap characterUnits) = chars := by
    induction chars with
    | nil => rfl
    | cons character rest ih => rw [List.flatMap_cons, unitChars_characterUnits, ih]
  rw [decodeUtf16, utf16Units, chars, String.ofList_toList]

theorem decodeUtf16_encodeUtf16 (text : String) :
    decodeUtf16 (bigEndianUnits (encodeUtf16 text)) = text := by
  rw [encodeUtf16, bigEndianUnits_unitBytes, decodeUtf16_utf16Units]

end PdfElements.Text
