import PdfElements.Proofs.Content.RoundTrip
import PdfElements.Proofs.Font.Sections
import PdfElements.Proofs.Text.Utf16

/-! Text in UTF-16 that is spelled in hexadecimal digits, as the target of a code or as the name of
a glyph, is read as the same text. Each reader of digits takes them in either case. -/

set_option autoImplicit false

namespace PdfElements

/-! ### Digits -/

/-- A character is the digit for a number below 16, in lower or upper case. -/
def IsHexDigit (number : Nat) (character : Char) : Prop :=
  character = number.digitChar ∨ character = number.digitChar.toUpper

/-- Bytes are spelled with two digits each, the one for the high half first. -/
inductive Spells : List UInt8 → List Char → Prop where
  | nil : Spells [] []
  | cons {byte : UInt8} {bytes : List UInt8} {high low : Char} {digits : List Char} :
      IsHexDigit (byte.toNat / 16) high → IsHexDigit (byte.toNat % 16) low →
      Spells bytes digits → Spells (byte :: bytes) (high :: low :: digits)

/-- A character is one byte, and all readers of digits take it for a number. -/
structure ReadAs (number : Nat) (character : Char) : Prop where
  encoded : String.utf8EncodeChar character = [UInt8.ofNat character.toNat]
  scanned : Content.hexValue? (UInt8.ofNat character.toNat) = some (UInt8.ofNat number)
  accepted : GlyphName.isHexDigit character = true
  value : GlyphName.hexValue character = number
  notPoint : character ≠ '.'
  notUnderscore : character ≠ '_'

instance (number : Nat) (character : Char) : Decidable (ReadAs number character) :=
  decidable_of_iff
    (String.utf8EncodeChar character = [UInt8.ofNat character.toNat] ∧
      Content.hexValue? (UInt8.ofNat character.toNat) = some (UInt8.ofNat number) ∧
      GlyphName.isHexDigit character = true ∧ GlyphName.hexValue character = number ∧
      character ≠ '.' ∧ character ≠ '_')
    ⟨fun ⟨encoded, scanned, accepted, value, notPoint, notUnderscore⟩ =>
      ⟨encoded, scanned, accepted, value, notPoint, notUnderscore⟩,
    fun read => ⟨read.encoded, read.scanned, read.accepted, read.value, read.notPoint,
      read.notUnderscore⟩⟩

theorem IsHexDigit.readAs {number : Nat} {character : Char} (digit : IsHexDigit number character)
    (small : number < 16) : ReadAs number character := by
  have lower : ∀ number < 16, ReadAs number number.digitChar := by decide +kernel
  have upper : ∀ number < 16, ReadAs number number.digitChar.toUpper := by decide +kernel
  rcases digit with rfl | rfl
  · exact lower number small
  · exact upper number small

theorem readAs_high {byte : UInt8} {character : Char}
    (digit : IsHexDigit (byte.toNat / 16) character) : ReadAs (byte.toNat / 16) character :=
  digit.readAs (Nat.div_lt_of_lt_mul byte.toNat_lt)

theorem readAs_low {byte : UInt8} {character : Char}
    (digit : IsHexDigit (byte.toNat % 16) character) : ReadAs (byte.toNat % 16) character :=
  digit.readAs (Nat.mod_lt _ (by decide))

namespace Spells

variable {bytes : List UInt8} {digits : List Char}

theorem length (spells : Spells bytes digits) : digits.length = 2 * bytes.length := by
  induction spells with
  | nil => rfl
  | cons _ _ _ ih =>
      simp only [List.length_cons, ih]
      omega

theorem readAs (spells : Spells bytes digits) :
    ∀ digit ∈ digits, ∃ number, ReadAs number digit := by
  induction spells with
  | nil => exact List.forall_mem_nil _
  | cons high low _ ih =>
      exact List.forall_mem_cons.mpr ⟨⟨_, readAs_high high⟩,
        List.forall_mem_cons.mpr ⟨⟨_, readAs_low low⟩, ih⟩⟩

theorem digitsOf (spells : Spells bytes digits) :
    Content.DigitsOf bytes (digits.flatMap String.utf8EncodeChar) := by
  have split : ∀ byte : UInt8,
      Content.halves byte = [UInt8.ofNat (byte.toNat / 16), UInt8.ofNat (byte.toNat % 16)] :=
    Content.forall_byte (by decide +kernel)
  induction spells with
  | nil => exact .nil
  | cons high low _ ih =>
      have high := readAs_high high
      have low := readAs_low low
      rw [Content.DigitsOf, List.flatMap_cons, List.flatMap_cons, List.flatMap_cons, high.encoded,
        low.encoded, split]
      exact .cons high.scanned (.cons low.scanned ih)

end Spells

/-! ### Tokens -/

namespace Content

variable {K : Type} [Scalar K]

/-- A lexeme that is one token: a hexadecimal string, or a word that is an operator. -/
inductive StandsFor : Lexeme → Token K → Prop where
  | hexadecimal {value digits : List UInt8} : DigitsOf value digits →
      StandsFor (.closed (0x3C :: (digits ++ [0x3E]))) (.operand (.hexadecimal value))
  | operator {name : String} : (Text.encodeUtf8 name).all isRegular = true →
      (Text.encodeUtf8 name).head?.any (!beginsNumber ·) = true →
      name ∉ ["true", "false", "null", "BI"] →
      StandsFor (.word (Text.encodeUtf8 name)) (.operator name)

variable {size fuel : Nat} {text : List UInt8} {more : List Lexeme}

theorem next_laid {lexeme : Lexeme} {token : Token K} (stands : StandsFor lexeme token)
    (laid : Laid (lexeme :: more) text) (enough : text.length < fuel) :
    ∃ rest, Laid more rest ∧ next? size fuel text = .ok (some (token, rest)) := by
  cases stands with
  | hexadecimal written =>
      obtain ⟨rest, start, _, laid⟩ := laid.uncons rfl
      refine ⟨rest, laid, next_of_reads ?_ nofun enough⟩
      rw [start, List.append_assoc]
      exact .hexadecimal (written.hexadecimalFrom rest)
  | @operator name regular word ordinary =>
      obtain ⟨first, found, word⟩ := (Option.any_eq_true _ _).mp word
      obtain ⟨others, written⟩ := List.head?_eq_some_iff.mp found
      rw [written] at laid regular
      rw [List.all_eq_true] at regular
      rw [Bool.not_eq_true'] at word
      have begins := regular first List.mem_cons_self
      obtain ⟨rest, start, ends, laid⟩ := laid.uncons (isSolid_of_isRegular first begins)
      obtain ⟨fuel, rfl⟩ := Nat.exists_eq_succ_of_ne_zero (Nat.ne_zero_of_lt enough)
      have own : keyword (first :: others) = (name, []) := by
        rw [keyword, List.takeWhile_eq_self_iff.mpr regular,
          List.dropWhile_eq_nil_iff.mpr regular, ← written, Text.decodeUtf8_encodeUtf8]
      have whole : keyword (first :: (others ++ rest)) = (name, rest) := by
        have split := keyword_append (first :: others) (ends rfl)
        rwa [own] at split
      simp only [List.mem_cons, List.not_mem_nil, or_false, not_or] at ordinary
      refine ⟨rest, laid, ?_⟩
      rw [next_word start begins word, keywordToken_of_ne (by rw [whole]; exact ordinary.2.2.2),
        whole, wordToken, if_neg ordinary.1, if_neg ordinary.2.1, if_neg ordinary.2.2.1]
      rfl

theorem tokensFrom_laid {lexemes : List Lexeme} {tokens : List (Token K)}
    (stand : List.Forall₂ StandsFor lexemes tokens) (laid : Laid lexemes text)
    (enough : text.length < fuel) (read : Array (Token K)) :
    tokensFrom size fuel read text = ⟨read ++ tokens.toArray, none⟩ := by
  induction stand generalizing text fuel read with
  | nil =>
      obtain ⟨fuel, rfl⟩ := Nat.exists_eq_succ_of_ne_zero (Nat.ne_zero_of_lt enough)
      have ended : next? (K := K) size (fuel + 1) text = .ok none := next_nil laid.nothing
      simp [tokensFrom_none read ended]
  | cons first _ ih =>
      obtain ⟨fuel, rfl⟩ := Nat.exists_eq_succ_of_ne_zero (Nat.ne_zero_of_lt enough)
      obtain ⟨rest, laid, found⟩ := next_laid first laid enough
      have shorter := (behind_next found).shorter
      rw [tokensFrom_token read found, ih laid (by omega)]
      simp

theorem tokens_laid {lexemes : List Lexeme} {tokens : List (Token K)}
    (stand : List.Forall₂ StandsFor lexemes tokens) (laid : Laid lexemes text) :
    Content.tokens text = ⟨tokens.toArray, none⟩ := by
  rw [tokens_eq, tokensFrom_laid stand laid (Nat.lt_succ_self _), Array.empty_append]

end Content

/-! ### Targets of codes -/

namespace CMap

open Content

theorem parse_of_tokens {bytes : List UInt8} {tokens : List (Token Float)}
    (read : Content.tokens bytes = ⟨tokens.toArray, none⟩) :
    parse bytes = .ok (ofSections (sectionsFrom [] tokens)) := by
  rw [parse_eq, sections, read]

def singlePair (codeDigits targetDigits : List Char) : List UInt8 :=
  Text.encodeUtf8 ("beginbfchar <" ++ String.ofList codeDigits ++ "> <" ++
    String.ofList targetDigits ++ "> endbfchar")

theorem laid_singlePair (codeDigits targetDigits : List Char) :
    Laid [.word (Text.encodeUtf8 "beginbfchar"),
        .closed (0x3C :: (codeDigits.flatMap String.utf8EncodeChar ++ [0x3E])),
        .closed (0x3C :: (targetDigits.flatMap String.utf8EncodeChar ++ [0x3E])),
        .word (Text.encodeUtf8 "endbfchar")]
      (singlePair codeDigits targetDigits) := by
  have space : ∀ byte ∈ [(0x20 : UInt8)], isBlank byte = true :=
    List.forall_mem_singleton.mpr rfl
  have nothing : ∀ byte ∈ ([] : List UInt8), isBlank byte = true := nofun
  have before : Text.encodeUtf8 "beginbfchar <" =
      Text.encodeUtf8 "beginbfchar" ++ [0x20, 0x3C] := by decide +kernel
  have between : Text.encodeUtf8 "> <" = [0x3E, 0x20, 0x3C] := by decide +kernel
  have behind : Text.encodeUtf8 "> endbfchar" =
      [0x3E, 0x20] ++ Text.encodeUtf8 "endbfchar" := by decide +kernel
  have text : singlePair codeDigits targetDigits =
      [] ++ (Text.encodeUtf8 "beginbfchar" ++
        ([0x20] ++ (0x3C :: (codeDigits.flatMap String.utf8EncodeChar ++ [0x3E]) ++
          ([0x20] ++ (0x3C :: (targetDigits.flatMap String.utf8EncodeChar ++ [0x3E]) ++
            ([0x20] ++ (Text.encodeUtf8 "endbfchar" ++ []))))))) := by
    simp only [singlePair, Text.encodeUtf8_append, before, between, behind]
    simp [Text.encodeUtf8]
  rw [text]
  refine .cons nothing (fun _ => rfl) (.cons space ?_ (.cons space ?_
    (.cons space (fun _ => rfl) (.nil nothing))))
  · rintro ⟨⟩
  · rintro ⟨⟩

theorem tokens_singlePair {code target : List UInt8} {codeDigits targetDigits : List Char}
    (codeSpelled : Spells code codeDigits) (targetSpelled : Spells target targetDigits) :
    Content.tokens (K := Float) (singlePair codeDigits targetDigits) =
      ⟨[.operator "beginbfchar", .operand (.hexadecimal code), .operand (.hexadecimal target),
        .operator "endbfchar"].toArray, none⟩ := by
  have opens : StandsFor (K := Float) (.word (Text.encodeUtf8 "beginbfchar"))
      (.operator "beginbfchar") :=
    .operator (by decide +kernel) (by decide +kernel) (by decide)
  have closes : StandsFor (K := Float) (.word (Text.encodeUtf8 "endbfchar"))
      (.operator "endbfchar") :=
    .operator (by decide +kernel) (by decide +kernel) (by decide)
  have stand := List.Forall₂.cons opens (.cons (.hexadecimal codeSpelled.digitsOf)
    (.cons (.hexadecimal targetSpelled.digitsOf) (.cons closes .nil)))
  exact tokens_laid stand (laid_singlePair codeDigits targetDigits)

theorem text_singlePair (code target : List UInt8) :
    (ofSections (K := Float) (sectionsFrom [] [.operator "beginbfchar",
      .operand (.hexadecimal code), .operand (.hexadecimal target),
      .operator "endbfchar"])).text? (codeValue code) = some (bytesText target) := by
  simp [sectionsFrom, text_ofSections, Section.assignments, pairs, Assignment.text?,
    Assignment.made?, targetText?, CMapEntry.text?, Operand.string?]

end CMap

/-! ### Names of glyphs -/

namespace GlyphName

theorem hexNumber_bytes {high low : UInt8} {a b c d : Char}
    (first : ReadAs (high.toNat / 16) a) (second : ReadAs (high.toNat % 16) b)
    (third : ReadAs (low.toNat / 16) c) (fourth : ReadAs (low.toNat % 16) d) :
    hexNumber [a, b, c, d] = high.toNat * 256 + low.toNat := by
  simp only [hexNumber, List.foldl_cons, List.foldl_nil, first.value, second.value, third.value,
    fourth.value]
  omega

theorem units_spelled {spelled : List UInt16} {digits : List Char}
    (spells : Spells (spelled.flatMap Text.unitBytes) digits) : units digits = spelled := by
  induction spelled generalizing digits with
  | nil =>
      cases spells
      rfl
  | cons unit rest ih =>
      rw [List.flatMap_cons, Text.unitBytes] at spells
      cases spells with
      | cons first second spells =>
          cases spells with
          | cons third fourth spells =>
              have whole : (UInt8.ofNat (unit.toNat / 256)).toNat * 256 +
                  (UInt8.ofNat (unit.toNat % 256)).toNat = unit.toNat := by
                have small : unit.toNat < 2 ^ 16 := unit.toNat_lt
                simp only [UInt8.toNat_ofNat']
                omega
              rw [units, hexNumber_bytes (readAs_high first) (readAs_low second)
                (readAs_high third) (readAs_low fourth), whole, Nat.toUInt16_eq,
                UInt16.ofNat_toNat, ih spells]

theorem split_of_not_mem {separator : Char} {characters : List Char}
    (absent : separator ∉ characters) : split separator characters = [characters] := by
  induction characters with
  | nil => rfl
  | cons character rest ih =>
      rw [List.mem_cons, not_or] at absent
      rw [split, if_neg (Ne.symm absent.1), ih absent.2]

theorem text_of_component {name : String} {text : List Char} (point : '.' ∉ name.toList)
    (underscore : '_' ∉ name.toList) (given : componentText? name.toList = some text) :
    text? name = some (String.ofList text) := by
  have base : name.toList.takeWhile (· != '.') = name.toList := by
    refine List.takeWhile_eq_self_iff.mpr ?_
    rintro character member
    rw [bne_iff_ne]
    rintro rfl
    exact point member
  rw [text?, base, split_of_not_mem underscore]
  simp [given]

theorem text_uni {spelled : List UInt16} {digits : List Char}
    (spells : Spells (spelled.flatMap Text.unitBytes) digits) (present : spelled ≠ []) :
    text? ("uni" ++ String.ofList digits) = some (Text.decodeUtf16 spelled) := by
  have count : digits.length = 4 * spelled.length := by
    rw [spells.length, Text.length_unitBytes]
    omega
  have enough : 4 ≤ digits.length := by
    have positive := List.length_pos_of_ne_nil present
    omega
  have accepted : digits.all isHexDigit = true := by
    rw [List.all_eq_true]
    intro digit member
    obtain ⟨_, read⟩ := spells.readAs digit member
    exact read.accepted
  have point : '.' ∉ digits := by
    intro member
    obtain ⟨_, read⟩ := spells.readAs _ member
    exact read.notPoint rfl
  have underscore : '_' ∉ digits := by
    intro member
    obtain ⟨_, read⟩ := spells.readAs _ member
    exact read.notUnderscore rfl
  have characters : ("uni" ++ String.ofList digits).toList = 'u' :: 'n' :: 'i' :: digits := by
    simp
  have taken : unitDigits? ('u' :: 'n' :: 'i' :: digits) = some digits := by
    have whole : digits.length % 4 = 0 := by omega
    simp [unitDigits?, accepted, enough, whole]
  apply text_of_component
  · simp [characters, point]
  · simp [characters, underscore]
  · simp only [characters, componentText?, taken, units_spelled spells]

end GlyphName

/-- Text that is spelled in UTF-16 is read back, characters of two units among it, whatever the
cases of the digits: as the target of a code of at most four bytes, and as the name of a glyph. -/
theorem spelled_text_is_read_back {text : String} {code : List UInt8}
    {codeDigits textDigits : List Char} (short : code.length ≤ 4)
    (codeSpelled : Spells code codeDigits)
    (textSpelled : Spells (Text.encodeUtf16 text) textDigits) :
    (∃ map, CMap.parse (Text.encodeUtf8 ("beginbfchar <" ++ String.ofList codeDigits ++ "> <" ++
        String.ofList textDigits ++ "> endbfchar")) = .ok map ∧
      map.text? (Nat.ofDigits 256 (code.reverse.map UInt8.toNat)) = some text) ∧
      (text ≠ "" → GlyphName.text? ("uni" ++ String.ofList textDigits) = some text) := by
  refine ⟨?_, ?_⟩
  · have read := CMap.tokens_singlePair codeSpelled textSpelled
    refine ⟨_, CMap.parse_of_tokens read, ?_⟩
    have value : CMap.codeValue code = Nat.ofDigits 256 (code.reverse.map UInt8.toNat) := by
      rw [← Typeface.codeOf_eq_ofDigits, CMap.codeValue, List.take_of_length_le short]
      rfl
    rw [← value, CMap.text_singlePair, CMap.bytesText, Text.decodeUtf16_encodeUtf16]
  · intro present
    have units : Text.utf16Units text ≠ [] := by
      intro nothing
      apply present
      rw [← Text.decodeUtf16_utf16Units text, nothing]
      rfl
    rw [GlyphName.text_uni textSpelled units, Text.decodeUtf16_utf16Units]

/-- The letter A and a Fraktur letter, which is a pair of surrogates. -/
theorem surrogate_pair_is_read_back :
    let text := String.ofList ['A', Char.ofNat 0x1D504]
    let codeDigits := "01fF".toList
    let textDigits := "0041d835Dd04".toList
    Spells [0x01, 0xFF] codeDigits ∧ Spells (Text.encodeUtf16 text) textDigits ∧
      (∃ map, CMap.parse (Text.encodeUtf8 "beginbfchar <01fF> <0041d835Dd04> endbfchar") = .ok map ∧
        map.text? 0x1FF = some text) ∧
      GlyphName.text? "uni0041d835Dd04" = some text := by
  intro text codeDigits textDigits
  have codeSpelled : Spells [0x01, 0xFF] codeDigits :=
    .cons (.inl rfl) (.inl rfl) (.cons (.inl rfl) (.inr rfl) .nil)
  have units : Text.encodeUtf16 text = [0x00, 0x41, 0xD8, 0x35, 0xDD, 0x04] := by decide +kernel
  have textSpelled : Spells (Text.encodeUtf16 text) textDigits := by
    rw [units]
    exact .cons (.inl rfl) (.inl rfl) (.cons (.inl rfl) (.inl rfl) (.cons (.inl rfl) (.inl rfl)
      (.cons (.inl rfl) (.inl rfl) (.cons (.inr rfl) (.inl rfl) (.cons (.inl rfl) (.inl rfl)
        .nil)))))
  obtain ⟨target, name⟩ := spelled_text_is_read_back (by decide) codeSpelled textSpelled
  exact ⟨codeSpelled, textSpelled, target, name (by decide)⟩

end PdfElements
