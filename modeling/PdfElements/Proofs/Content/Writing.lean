import Mathlib.Algebra.Ring.Int.Defs
import Mathlib.Data.List.Forall2
import Mathlib.Data.List.TakeWhile
import PdfElements.Proofs.Content.Scanning
import PdfElements.Proofs.Text.Utf8

/-! How operands are written. Strings, names and integers have one text each, up to the shape of
hexadecimal digits, and each text is scanned as what it was written for. -/

set_option autoImplicit false

namespace PdfElements.Content

/-- Digits that hexadecimal numbers are written with. -/
structure HexDigits where
  digit : UInt8 → UInt8
  value : ∀ number < 16, hexValue? (digit number) = some number

def halves (byte : UInt8) : List UInt8 := [byte >>> 4, byte &&& 0x0F]

namespace HexDigits

def upper : HexDigits where
  digit number := if number < 10 then 0x30 + number else 0x37 + number
  value := forall_byte (by decide +kernel)

def lower : HexDigits where
  digit number := if number < 10 then 0x30 + number else 0x57 + number
  value := forall_byte (by decide +kernel)

variable (digits : HexDigits)

def pair (byte : UInt8) : List UInt8 := (halves byte).map digits.digit

def hexadecimal (value : List UInt8) : List UInt8 := 0x3C :: (value.flatMap digits.pair ++ [0x3E])

/-- A byte of a name, behind a number sign if it may not stand for itself. -/
def escaped (byte : UInt8) : List UInt8 :=
  if isRegular byte && byte != 0x23 then [byte] else 0x23 :: digits.pair byte

def name (value : String) : List UInt8 :=
  0x2F :: (Text.encodeUtf8 value).flatMap digits.escaped

end HexDigits

/-- A byte of a literal string, behind a backslash if it is one or a parenthesis. -/
def quoted (byte : UInt8) : List UInt8 :=
  if byte = 0x28 || byte = 0x29 || byte = 0x5C then [0x5C, byte] else [byte]

def writeLiteral (value : List UInt8) : List UInt8 := 0x28 :: (value.flatMap quoted ++ [0x29])

def decimal (value : Nat) : List UInt8 :=
  (Nat.toDigits 10 value).map fun digit => UInt8.ofNat digit.toNat

def writeInteger (value : Int) : List UInt8 :=
  if value < 0 then 0x2D :: decimal value.natAbs else decimal value.natAbs

/-! ### Hexadecimal digits -/

theorem halves_lt : ∀ byte : UInt8, byte >>> 4 < 16 ∧ byte &&& 0x0F < 16 :=
  forall_byte (by decide +kernel)

theorem join_halves : ∀ byte : UInt8, byte >>> 4 <<< 4 ||| byte &&& 0x0F = byte :=
  forall_byte (by decide +kernel)

theorem hexValue_high (digits : HexDigits) (byte : UInt8) :
    hexValue? (digits.digit (byte >>> 4)) = some (byte >>> 4) :=
  digits.value _ (halves_lt byte).1

theorem hexValue_low (digits : HexDigits) (byte : UInt8) :
    hexValue? (digits.digit (byte &&& 0x0F)) = some (byte &&& 0x0F) :=
  digits.value _ (halves_lt byte).2

theorem isRegular_of_hexValue_isSome :
    ∀ byte, (hexValue? byte).isSome = true → isRegular byte = true :=
  forall_byte (by decide +kernel)

theorem isRegular_of_hexValue {byte number : UInt8} (digit : hexValue? byte = some number) :
    isRegular byte = true :=
  isRegular_of_hexValue_isSome byte (by rw [digit]; rfl)

theorem hexadecimalFrom_digit {byte number : UInt8} (digit : hexValue? byte = some number)
    (reversed rest : List UInt8) :
    hexadecimalFrom reversed (byte :: rest) = hexadecimalFrom (number :: reversed) rest := by
  have regular := isRegular_of_hexValue digit
  have inside : byte ≠ 0x3E := by
    rintro rfl
    cases regular
  have word : isBlank byte = false := by
    simp only [isRegular, Bool.and_eq_true, Bool.not_eq_true'] at regular
    exact regular.1
  simp [hexadecimalFrom, inside, word, digit]

theorem pairDigits_halves (value : List UInt8) : pairDigits (value.flatMap halves) = value := by
  induction value with
  | nil => rfl
  | cons byte rest ih =>
      simp only [List.flatMap_cons, halves, List.cons_append, List.nil_append, pairDigits,
        join_halves]
      exact congrArg (List.cons byte) ih

theorem hexadecimalFrom_digits {digits numbers : List UInt8}
    (values : List.Forall₂ (fun digit number => hexValue? digit = some number) digits numbers)
    (reversed rest : List UInt8) :
    hexadecimalFrom reversed (digits ++ 0x3E :: rest) =
      .ok (pairDigits (reversed.reverse ++ numbers), rest) := by
  induction values generalizing reversed with
  | nil => simp [hexadecimalFrom]
  | cons first _ ih =>
      rw [List.cons_append, hexadecimalFrom_digit first, ih]
      simp

/-- The digits of a value, two for each byte. -/
def DigitsOf (value digits : List UInt8) : Prop :=
  List.Forall₂ (fun digit number => hexValue? digit = some number) digits (value.flatMap halves)

theorem DigitsOf.hexadecimalFrom {value digits : List UInt8} (written : DigitsOf value digits)
    (rest : List UInt8) : hexadecimalFrom [] (digits ++ 0x3E :: rest) = .ok (value, rest) := by
  rw [hexadecimalFrom_digits written, List.reverse_nil, List.nil_append, pairDigits_halves]

theorem HexDigits.digitsOf (digits : HexDigits) (value : List UInt8) :
    DigitsOf value (value.flatMap digits.pair) := by
  induction value with
  | nil => exact .nil
  | cons byte more ih =>
      exact .cons (hexValue_high digits byte) (.cons (hexValue_low digits byte) ih)

theorem hexadecimalFrom_hexadecimal (digits : HexDigits) (value rest : List UInt8) :
    hexadecimalFrom [] (value.flatMap digits.pair ++ 0x3E :: rest) = .ok (value, rest) :=
  (digits.digitsOf value).hexadecimalFrom rest

example : hexadecimalFrom [] ([0x1F].flatMap HexDigits.lower.pair ++ [0x3E]) = .ok ([0x1F], []) :=
  rfl

/-! ### Names -/

theorem decodeName_cons {byte : UInt8} (plain : byte ≠ 0x23) (rest : List UInt8) :
    decodeName (byte :: rest) = byte :: decodeName rest := by
  match rest with
  | [] => rfl
  | [_] => rfl
  | _ :: _ :: _ => simp [decodeName, plain]

/-- A way to write the bytes of names: as themselves, if they are regular and no number signs, or
as two digits behind one. -/
def HexDigits.Escapes (digits : HexDigits) (write : UInt8 → List UInt8) : Prop :=
  ∀ byte, (write byte = [byte] ∧ isRegular byte = true ∧ byte ≠ 0x23) ∨
    write byte = 0x23 :: digits.pair byte

theorem HexDigits.escapes_escaped (digits : HexDigits) : digits.Escapes digits.escaped := by
  intro byte
  unfold escaped
  split
  · next plain => exact .inl ⟨rfl, by simpa using plain⟩
  · exact .inr rfl

section escapes

variable {digits : HexDigits} {write : UInt8 → List UInt8}

theorem decodeName_written (escapes : digits.Escapes write) (value : List UInt8) :
    decodeName (value.flatMap write) = value := by
  induction value with
  | nil => rfl
  | cons byte rest ih =>
      rw [List.flatMap_cons]
      obtain ⟨written, _, other⟩ | written := escapes byte
      · rw [written, List.singleton_append, decodeName_cons other, ih]
      · simp [written, HexDigits.pair, halves, decodeName, hexValue_high, hexValue_low,
          join_halves, ih]

theorem isRegular_written (escapes : digits.Escapes write) (value : List UInt8) :
    ∀ byte ∈ value.flatMap write, isRegular byte = true := by
  intro byte member
  obtain ⟨source, _, member⟩ := List.mem_flatMap.mp member
  obtain ⟨written, regular, _⟩ | written := escapes source
  · rw [written] at member
    cases List.mem_singleton.mp member
    exact regular
  · simp only [written, HexDigits.pair, halves, List.map_cons, List.map_nil, List.mem_cons,
      List.not_mem_nil, or_false] at member
    rcases member with rfl | rfl | rfl
    · rfl
    · exact isRegular_of_hexValue (hexValue_high digits source)
    · exact isRegular_of_hexValue (hexValue_low digits source)

theorem name_written (escapes : digits.Escapes write) (value : List UInt8) {rest : List UInt8}
    (ends : endsWord rest = true) :
    name (value.flatMap write ++ rest) = (Text.decodeUtf8 value, rest) := by
  have regular := isRegular_written escapes value
  rw [name_append _ ends]
  simp only [name]
  rw [List.takeWhile_eq_self_iff.mpr regular, List.dropWhile_eq_nil_iff.mpr regular,
    decodeName_written escapes, List.nil_append]

end escapes

theorem name_escaped (digits : HexDigits) (value : String) {rest : List UInt8}
    (ends : endsWord rest = true) :
    name ((Text.encodeUtf8 value).flatMap digits.escaped ++ rest) = (value, rest) := by
  rw [name_written digits.escapes_escaped _ ends, Text.decodeUtf8_encodeUtf8]

/-! ### Literal strings -/

theorem scan_quoted (byte : UInt8) (reversed rest : List UInt8) :
    Literal.scan ⟨.plain, 0, reversed⟩ (quoted byte ++ rest) =
      Literal.scan ⟨.plain, 0, byte :: reversed⟩ rest := by
  unfold quoted
  split
  · next special =>
      simp only [Bool.or_eq_true, decide_eq_true_eq] at special
      rcases special with (rfl | rfl) | rfl <;> rfl
  · next plain =>
      simp only [Bool.or_eq_true, decide_eq_true_eq, not_or] at plain
      simp [Literal.scan, Literal.step, Literal.plain, Literal.push, plain]

theorem scan_writeLiteral (reversed value rest : List UInt8) :
    Literal.scan ⟨.plain, 0, reversed⟩ (value.flatMap quoted ++ 0x29 :: rest) =
      .ok (reversed.reverse ++ value, rest) := by
  induction value generalizing reversed with
  | nil => simp [Literal.scan, Literal.step, Literal.plain]
  | cons byte more ih =>
      rw [List.flatMap_cons, List.append_assoc, scan_quoted, ih]
      simp

theorem literal_writeLiteral (value rest : List UInt8) :
    literal (value.flatMap quoted ++ 0x29 :: rest) = .ok (value, rest) :=
  scan_writeLiteral [] value rest

/-! ### Integers -/

theorem digit_byte {digit : Char} (decimal : digit.isDigit = true) :
    isDigit (UInt8.ofNat digit.toNat) = true ∧
      (UInt8.ofNat digit.toNat).toNat = digit.toNat := by
  have every : ∀ value < 58, 48 ≤ value →
      isDigit (UInt8.ofNat value) = true ∧ (UInt8.ofNat value).toNat = value := by
    decide +kernel
  simp only [Char.isDigit, Bool.and_eq_true, decide_eq_true_eq] at decimal
  have above : 48 ≤ digit.toNat := decimal.1
  have below : digit.toNat ≤ 57 := decimal.2
  exact every digit.toNat (by omega) above

theorem isDigit_decimal (value : Nat) : ∀ byte ∈ decimal value, isDigit byte = true := by
  intro byte member
  obtain ⟨digit, within, rfl⟩ := List.mem_map.mp member
  have decimal : digit.isDigit = true :=
    Nat.isDigit_of_mem_toDigits (by decide) (by decide) within
  exact (digit_byte decimal).1

theorem decimal_begins (value : Nat) :
    ∃ byte rest, decimal value = byte :: rest ∧ isDigit byte = true := by
  cases digits : decimal value with
  | nil => exact absurd (List.map_eq_nil_iff.mp digits) Nat.toDigits_ne_nil
  | cons byte rest =>
      exact ⟨byte, rest, rfl, isDigit_decimal value byte (digits ▸ List.mem_cons_self)⟩

theorem digitsValue_decimal (value : Nat) : digitsValue (decimal value) = value := by
  have bytes (digits : List Char) (decimal : ∀ digit ∈ digits, digit.isDigit = true)
      (before : Nat) :
      (digits.map fun digit => UInt8.ofNat digit.toNat).foldl
          (fun value digit => value * 10 + (digit.toNat - 0x30)) before =
        digits.foldl (fun value digit => 10 * value + (digit.toNat - '0'.toNat)) before := by
    induction digits generalizing before with
    | nil => rfl
    | cons digit more ih =>
        have same := (digit_byte (decimal digit List.mem_cons_self)).2
        simp only [List.map_cons, List.foldl_cons]
        rw [ih (fun digit member => decimal digit (List.mem_cons_of_mem _ member)), same,
          Nat.mul_comm]
        rfl
  calc digitsValue (decimal value)
    _ = (Nat.toDigits 10 value).foldl
          (fun value digit => 10 * value + (digit.toNat - '0'.toNat)) 0 :=
        bytes _ (fun _ member => Nat.isDigit_of_mem_toDigits (by decide) (by decide) member) 0
    _ = Nat.ofDigitChars 10 (Nat.toDigits 10 value) 0 := Nat.ofDigitChars_eq_foldl.symm
    _ = value := Nat.ofDigitChars_ten_toDigits

variable {K : Type} [Scalar K]

theorem number_of_unsigned {bytes : List UInt8} {magnitude : Nat}
    (unsigned : bytes.dropWhile isSign = decimal magnitude) (small : magnitude < Nat.pow 2 63) :
    number (K := K) bytes =
      (.integer (if bytes.head? == some 0x2D then -(magnitude : Int) else magnitude), []) := by
  have digits := isDigit_decimal magnitude
  have ends : (decimal magnitude).dropWhile isDigit = [] := List.dropWhile_eq_nil_iff.mpr digits
  have whole : (decimal magnitude).takeWhile isDigit = decimal magnitude :=
    List.takeWhile_eq_self_iff.mpr digits
  have some : (decimal magnitude).isEmpty = false := by
    obtain ⟨byte, rest, digits, _⟩ := decimal_begins magnitude
    rw [digits, List.isEmpty_cons]
  rw [number_whole (by rw [unsigned, ends]; exact nofun), unsigned, whole, ends]
  simp only [some, integerOperand, digitsValue_decimal, small, if_true]
  rfl

theorem dropWhile_isSign_decimal (value : Nat) :
    (decimal value).dropWhile isSign = decimal value := by
  obtain ⟨byte, rest, digits, digit⟩ := decimal_begins value
  rw [digits]
  exact List.dropWhile_cons_of_neg (by simp [isSign_of_isDigit byte digit])

theorem number_writeInteger {value : Int} (low : -(2 ^ 63 : Int) < value)
    (high : value < 2 ^ 63) : number (K := K) (writeInteger value) = (.integer value, []) := by
  have small : value.natAbs < Nat.pow 2 63 := by
    have power : Nat.pow 2 63 = 9223372036854775808 := rfl
    omega
  unfold writeInteger
  split
  · next negative =>
      have unsigned : (0x2D :: decimal value.natAbs).dropWhile isSign = decimal value.natAbs :=
        dropWhile_isSign_decimal value.natAbs
      have sign : -(value.natAbs : Int) = value := by omega
      rw [number_of_unsigned unsigned small, List.head?_cons, beq_self_eq_true, if_pos rfl, sign]
  · next positive =>
      have sign : (value.natAbs : Int) = value := by omega
      have unsigned : ((decimal value.natAbs).head? == some 0x2D) = false := by
        obtain ⟨byte, rest, digits, digit⟩ := decimal_begins value.natAbs
        rw [digits]
        simp only [List.head?_cons, Option.some_beq_some, beq_eq_false_iff_ne]
        rintro rfl
        cases digit
      rw [number_of_unsigned (dropWhile_isSign_decimal value.natAbs) small, unsigned,
        if_neg Bool.false_ne_true, sign]

theorem writeInteger_begins (value : Int) :
    ∃ byte rest, writeInteger value = byte :: rest ∧ beginsNumber byte = true := by
  unfold writeInteger
  split
  · exact ⟨0x2D, decimal value.natAbs, rfl, rfl⟩
  · obtain ⟨byte, rest, digits, digit⟩ := decimal_begins value.natAbs
    exact ⟨byte, rest, digits, by simp [beginsNumber, digit]⟩

end PdfElements.Content
