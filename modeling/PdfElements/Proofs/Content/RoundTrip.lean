import PdfElements.Proofs.Content.Lexing
import PdfElements.Proofs.Content.Writing

/-! Operands that are written and read again. Each is written as lexemes, which white space may
stand between and, behind words, must unless a delimiter follows. The lexer reads them back in order
as long as their containers are not nested too deep, and fails where one is. -/

set_option autoImplicit false

namespace PdfElements

namespace Content

/-- A part of a text without white space in it. A word goes on as long as regular bytes follow. -/
structure Lexeme where
  bytes : List UInt8
  isWord : Bool

def Lexeme.word (bytes : List UInt8) : Lexeme := ⟨bytes, true⟩

def Lexeme.closed (bytes : List UInt8) : Lexeme := ⟨bytes, false⟩

/-- Lexemes are laid out as a text, one behind the other with white space around them. -/
inductive Laid : List Lexeme → List UInt8 → Prop where
  | nil {gap : List UInt8} : (∀ byte ∈ gap, isBlank byte = true) → Laid [] gap
  | cons {gap : List UInt8} {lexeme : Lexeme} {more : List Lexeme} {rest : List UInt8} :
      (∀ byte ∈ gap, isBlank byte = true) → (lexeme.isWord = true → endsWord rest = true) →
      Laid more rest → Laid (lexeme :: more) (gap ++ (lexeme.bytes ++ rest))

def spaced (lexemes : List Lexeme) : List UInt8 :=
  lexemes.flatMap fun lexeme => 0x20 :: lexeme.bytes

theorem laid_spaced (lexemes : List Lexeme) : Laid lexemes (spaced lexemes) := by
  have space : ∀ byte ∈ [(0x20 : UInt8)], isBlank byte = true := by
    intro byte member
    cases List.mem_singleton.mp member
    rfl
  induction lexemes with
  | nil =>
      refine .nil ?_
      intro byte member
      cases member
  | cons lexeme more ih =>
      refine .cons space (fun _ => ?_) ih
      cases more <;> rfl

end Content

namespace Operand

open Content

variable {K : Type}

/-- An operand without reals whose integers stay within 63 bits. -/
inductive Writable : Operand K → Prop where
  | integer {value : Int} : -(2 ^ 63 : Int) < value → value < 2 ^ 63 → Writable (.integer value)
  | name {value : String} : Writable (.name value)
  | literal {value : List UInt8} : Writable (.literal value)
  | hexadecimal {value : List UInt8} : Writable (.hexadecimal value)
  | boolean {value : Bool} : Writable (.boolean value)
  | null : Writable .null
  | array {items : List (Operand K)} : (∀ item ∈ items, Writable item) → Writable (.array items)
  | dictionary {entries : List (String × Operand K)} :
      (∀ entry ∈ entries, Writable entry.2) → Writable (.dictionary entries)

variable (digits : HexDigits)

mutual

/-- What an operand is written as. Reals are not written. -/
def lexemes : Operand K → List Lexeme
  | .integer value => [.word (writeInteger value)]
  | .real _ => []
  | .name value => [.word (digits.name value)]
  | .literal value => [.closed (writeLiteral value)]
  | .hexadecimal value => [.closed (digits.hexadecimal value)]
  | .array items => .closed [0x5B] :: (itemLexemes items ++ [.closed [0x5D]])
  | .boolean value => [.word (Text.encodeUtf8 (if value then "true" else "false"))]
  | .null => [.word (Text.encodeUtf8 "null")]
  | .dictionary entries => .closed [0x3C, 0x3C] :: (entryLexemes entries ++ [.closed [0x3E, 0x3E]])

def itemLexemes : List (Operand K) → List Lexeme
  | [] => []
  | item :: rest => lexemes item ++ itemLexemes rest

def entryLexemes : List (String × Operand K) → List Lexeme
  | [] => []
  | (key, value) :: rest => .word (digits.name key) :: (lexemes value ++ entryLexemes rest)

end

end Operand

namespace Content

variable {K : Type} [Scalar K] {digits : HexDigits}

theorem skipBlanks_gap {gap : List UInt8} (blank : ∀ byte ∈ gap, isBlank byte = true)
    (rest : List UInt8) : skipBlanks (gap ++ rest) = skipBlanks rest := by
  induction gap with
  | nil => rfl
  | cons byte more ih =>
      have first := blank byte List.mem_cons_self
      have onward := ih fun byte member => blank byte (List.mem_cons_of_mem _ member)
      unfold skipBlanks at onward ⊢
      simp only [List.cons_append, skip, first, if_true]
      exact onward

/-- A byte that a lexeme may begin with: neither white space nor the start of a comment. -/
def isSolid (byte : UInt8) : Bool := !isBlank byte && byte != 0x25

theorem skipBlanks_solid {byte : UInt8} (solid : isSolid byte = true) (rest : List UInt8) :
    skipBlanks (byte :: rest) = byte :: rest := by
  simp only [isSolid, Bool.and_eq_true, Bool.not_eq_true', bne_iff_ne] at solid
  simp [skipBlanks, skip, solid]

theorem isSolid_of_isRegular : ∀ byte, isRegular byte = true → isSolid byte = true :=
  forall_byte (by decide +kernel)

/-- The bytes of the first lexeme begin the text behind white space. -/
theorem Laid.uncons {first : UInt8} {others text : List UInt8} {isWord : Bool}
    {more : List Lexeme} (laid : Laid (⟨first :: others, isWord⟩ :: more) text)
    (solid : isSolid first = true) :
    ∃ rest, skipBlanks text = first :: (others ++ rest) ∧
      (isWord = true → endsWord rest = true) ∧ Laid more rest := by
  cases laid with
  | cons blank ends laid =>
      refine ⟨_, ?_, ends, laid⟩
      rw [skipBlanks_gap blank, List.cons_append, skipBlanks_solid solid]

theorem Laid.nothing {text : List UInt8} (laid : Laid [] text) : skipBlanks text = [] := by
  cases laid with
  | nil blank =>
      rw [← List.append_nil text, skipBlanks_gap blank]
      rfl

/-- However an operand is laid out, the grammar reads it, given room for its containers. -/
def ReadsBack (digits : HexDigits) (value : Operand K) : Prop :=
  ∀ {levels : Nat} {more : List Lexeme} {text : List UInt8}, value.nesting ≤ levels →
    Laid (value.lexemes digits ++ more) text →
    ∃ rest, Laid more rest ∧ Reads levels (skipBlanks text) (.operand value) rest

theorem readsBack_integer {value : Int} (low : -(2 ^ 63 : Int) < value) (high : value < 2 ^ 63) :
    ReadsBack digits (.integer value : Operand K) := by
  intro levels more text _ laid
  obtain ⟨byte, others, written, begins⟩ := writeInteger_begins value
  simp only [Operand.lexemes, Lexeme.word, written, List.singleton_append] at laid
  have solid := isSolid_of_isRegular byte (isRegular_of_beginsNumber byte begins)
  obtain ⟨rest, start, ends, laid⟩ := laid.uncons solid
  refine ⟨rest, laid, ?_⟩
  rw [start]
  refine .number begins ?_
  have read := number_append (K := K) (byte :: others) (ends rfl)
  rwa [← written, number_writeInteger low high, written, List.cons_append] at read

theorem readsBack_name (value : String) : ReadsBack digits (.name value : Operand K) := by
  intro levels more text _ laid
  obtain ⟨rest, start, ends, laid⟩ := laid.uncons rfl
  refine ⟨rest, laid, ?_⟩
  rw [start]
  exact .name (name_escaped digits value (ends rfl))

theorem readsBack_literal (value : List UInt8) :
    ReadsBack digits (.literal value : Operand K) := by
  intro levels more text _ laid
  obtain ⟨rest, start, _, laid⟩ := laid.uncons rfl
  refine ⟨rest, laid, ?_⟩
  rw [start, List.append_assoc]
  exact .literal (literal_writeLiteral value rest)

theorem readsBack_hexadecimal (value : List UInt8) :
    ReadsBack digits (.hexadecimal value : Operand K) := by
  intro levels more text _ laid
  obtain ⟨rest, start, _, laid⟩ := laid.uncons rfl
  refine ⟨rest, laid, ?_⟩
  rw [start, List.append_assoc]
  exact .hexadecimal (hexadecimalFrom_hexadecimal digits value rest)

theorem reads_word {levels : Nat} {first : UInt8} {others text : List UInt8}
    {more : List Lexeme} (laid : Laid (⟨first :: others, true⟩ :: more) text)
    (regular : (first :: others).all isRegular = true) (word : beginsNumber first = false) :
    ∃ rest, Laid more rest ∧ Reads levels (skipBlanks text)
      (.operand (keywordOperand (Text.decodeUtf8 (first :: others)) : Operand K)) rest := by
  have regular := List.all_eq_true.mp regular
  have begins := regular first List.mem_cons_self
  obtain ⟨rest, start, ends, laid⟩ := laid.uncons (isSolid_of_isRegular first begins)
  refine ⟨rest, laid, ?_⟩
  rw [start]
  have whole : keyword (first :: others) = (Text.decodeUtf8 (first :: others), []) := by
    unfold keyword
    rw [List.takeWhile_eq_self_iff.mpr regular, List.dropWhile_eq_nil_iff.mpr regular]
  refine .keyword word begins ?_
  rw [← List.cons_append, keyword_append (first :: others) (ends rfl), whole, List.nil_append]

theorem readsBack_boolean (value : Bool) : ReadsBack digits (.boolean value : Operand K) := by
  intro levels more text _ laid
  cases value with
  | false => exact reads_word laid rfl rfl
  | true => exact reads_word laid rfl rfl

theorem readsBack_null : ReadsBack digits (.null : Operand K) := by
  intro levels more text _ laid
  exact reads_word laid rfl rfl

theorem reads_items {items : List (Operand K)} (readsBack : ∀ item ∈ items, ReadsBack digits item)
    {levels : Nat} (shallow : Operand.nestingOfItems items ≤ levels) {more : List Lexeme}
    {text : List UInt8}
    (laid : Laid (Operand.itemLexemes digits items ++ .closed [0x5D] :: more) text) :
    ∃ rest, Laid more rest ∧ Reads levels text (.items items) rest := by
  induction items generalizing text with
  | nil =>
      obtain ⟨rest, start, _, laid⟩ := laid.uncons rfl
      exact ⟨rest, laid, .noItems start⟩
  | cons item items ih =>
      rw [Operand.itemLexemes, List.append_assoc] at laid
      rw [Operand.nestingOfItems] at shallow
      obtain ⟨middle, laid, first⟩ := readsBack item List.mem_cons_self
        (Nat.le_trans (Nat.le_max_left _ _) shallow) laid
      obtain ⟨rest, laid, others⟩ := ih
        (fun item member => readsBack item (List.mem_cons_of_mem _ member))
        (Nat.le_trans (Nat.le_max_right _ _) shallow) laid
      exact ⟨rest, laid, .item first others⟩

theorem reads_entries {entries : List (String × Operand K)}
    (readsBack : ∀ entry ∈ entries, ReadsBack digits entry.2)
    {levels : Nat} (shallow : Operand.nestingOfEntries entries ≤ levels) {more : List Lexeme}
    {text : List UInt8}
    (laid : Laid (Operand.entryLexemes digits entries ++ .closed [0x3E, 0x3E] :: more) text) :
    ∃ rest, Laid more rest ∧ Reads levels text (.entries entries) rest := by
  induction entries generalizing text with
  | nil =>
      obtain ⟨rest, start, _, laid⟩ := laid.uncons rfl
      exact ⟨rest, laid, .noEntries start⟩
  | cons entry entries ih =>
      obtain ⟨key, value⟩ := entry
      rw [Operand.entryLexemes, List.cons_append, List.append_assoc] at laid
      rw [Operand.nestingOfEntries] at shallow
      obtain ⟨behind, start, ends, laid⟩ := laid.uncons rfl
      obtain ⟨middle, laid, first⟩ := readsBack (key, value) List.mem_cons_self
        (Nat.le_trans (Nat.le_max_left _ _) shallow) laid
      obtain ⟨rest, laid, others⟩ := ih
        (fun entry member => readsBack entry (List.mem_cons_of_mem _ member))
        (Nat.le_trans (Nat.le_max_right _ _) shallow) laid
      exact ⟨rest, laid, .entry start (name_escaped digits key (ends rfl)) first others⟩

theorem readsBack_array {items : List (Operand K)}
    (readsBack : ∀ item ∈ items, ReadsBack digits item) :
    ReadsBack digits (.array items) := by
  intro levels more text shallow laid
  rw [Operand.lexemes, List.cons_append, List.append_assoc] at laid
  obtain ⟨inside, start, _, laid⟩ := laid.uncons rfl
  cases levels with
  | zero => cases shallow
  | succ levels =>
      obtain ⟨rest, laid, reads⟩ := reads_items readsBack (Nat.le_of_succ_le_succ shallow) laid
      exact ⟨rest, laid, by rw [start]; exact .array reads⟩

theorem readsBack_dictionary {entries : List (String × Operand K)}
    (readsBack : ∀ entry ∈ entries, ReadsBack digits entry.2) :
    ReadsBack digits (.dictionary entries) := by
  intro levels more text shallow laid
  rw [Operand.lexemes, List.cons_append, List.append_assoc] at laid
  obtain ⟨inside, start, _, laid⟩ := laid.uncons rfl
  cases levels with
  | zero => cases shallow
  | succ levels =>
      obtain ⟨rest, laid, reads⟩ := reads_entries readsBack (Nat.le_of_succ_le_succ shallow) laid
      exact ⟨rest, laid, by rw [start]; exact .dictionary reads⟩

theorem readsBack_of_writable {value : Operand K} (writable : value.Writable) :
    ReadsBack digits value := by
  induction writable with
  | integer low high => exact readsBack_integer low high
  | name => exact readsBack_name _
  | literal => exact readsBack_literal _
  | hexadecimal => exact readsBack_hexadecimal _
  | boolean => exact readsBack_boolean _
  | null => exact readsBack_null
  | array _ ih => exact readsBack_array ih
  | dictionary _ ih => exact readsBack_dictionary ih

variable {size fuel : Nat} {text rest : List UInt8}

/-- The words that operands are read from within operands are tokens of their own. -/
theorem keywordToken_of_operand {word : String}
    (unnamed : ∀ name, (keywordOperand word : Operand K) ≠ .name name)
    (read : keyword text = (word, rest)) :
    keywordToken size fuel text = .ok (.operand (keywordOperand word : Operand K), rest) := by
  have words : word = "true" ∨ word = "false" ∨ word = "null" := by
    by_contra other
    rw [not_or, not_or] at other
    exact unnamed word (by simp only [keywordOperand, other, if_false])
  have known : word ≠ "BI" ∧ wordToken word = .operand (keywordOperand word : Operand K) := by
    rcases words with rfl | rfl | rfl
    · exact ⟨by decide, rfl⟩
    · exact ⟨by decide, rfl⟩
    · exact ⟨by decide, rfl⟩
  rw [keywordToken_of_ne (by rw [read]; exact known.1), read, known.2]

theorem next_of_reads {value : Operand K}
    (reads : Reads nestingLimit (skipBlanks text) (.operand value) rest)
    (slash : ∀ word, value = .name word → (skipBlanks text).head? = some 0x2F)
    (enough : text.length < fuel) :
    next? size fuel text = .ok (some (.operand value, rest)) := by
  obtain ⟨fuel, rfl⟩ := Nat.exists_eq_succ_of_ne_zero (Nat.ne_zero_of_lt enough)
  have within := (skipBlanks_suffix text).length_le
  have read : operand size (operandFuel fuel) nestingLimit (skipBlanks text) =
      .ok (value, rest) :=
    reads.readFrom size (by simp only [Phrase.Enough, operandFuel]; omega)
  -- Only a word may be read otherwise between operands than within them.
  generalize found : skipBlanks text = start at *
  cases reads with
  | literal => exact (next_operand found rfl).trans (bind_of_ok read _)
  | hexadecimal => exact (next_operand found rfl).trans (bind_of_ok read _)
  | dictionary => exact (next_operand found rfl).trans (bind_of_ok read _)
  | array => exact (next_operand found rfl).trans (bind_of_ok read _)
  | name => exact (next_operand found rfl).trans (bind_of_ok read _)
  | number begins => exact (next_operand found (by simp [opensOperand, begins])).trans (bind_of_ok read _)
  | keyword word regular scanned =>
      refine (next_word found regular word).trans
        (bind_of_ok (keywordToken_of_operand ?_ scanned) _)
      intro name same
      cases slash name same
      cases regular

theorem Reads.unique {levels room : Nat} {bytes rest other : List UInt8} {value more : Operand K}
    (reads : Reads levels bytes (.operand value) rest)
    (readsMore : Reads room bytes (.operand more) other) : value = more := by
  have enough : 2 * bytes.length < 2 * bytes.length + 1 := Nat.lt_succ_self _
  have first := (operand_iff_reads 0 enough).mpr (reads.mono (Nat.le_max_left levels room))
  have second := (operand_iff_reads 0 enough).mpr (readsMore.mono (Nat.le_max_right levels room))
  cases first.symm.trans second
  rfl

theorem next_written (size : Nat) {value : Operand K} {more : List Lexeme}
    (writable : value.Writable) (shallow : value.nesting ≤ nestingLimit)
    (laid : Laid (value.lexemes digits ++ more) text) (enough : text.length < fuel) :
    ∃ rest, Laid more rest ∧ next? size fuel text = .ok (some (.operand value, rest)) := by
  obtain ⟨rest, laidMore, reads⟩ := readsBack_of_writable writable shallow laid
  refine ⟨rest, laidMore, next_of_reads reads ?_ enough⟩
  rintro name rfl
  obtain ⟨_, start, _, _⟩ := laid.uncons rfl
  rw [start]
  rfl

theorem next_too_deep (size : Nat) {value : Operand K} {more : List Lexeme}
    (writable : value.Writable) (deep : nestingLimit < value.nesting)
    (laid : Laid (value.lexemes digits ++ more) text) (enough : text.length < fuel) :
    ∃ fault, next? (K := K) size fuel text = .error fault := by
  obtain ⟨fuel, rfl⟩ := Nat.exists_eq_succ_of_ne_zero (Nat.ne_zero_of_lt enough)
  obtain ⟨first, start, found, opens⟩ : ∃ first start, skipBlanks text = first :: start ∧
      (first = 0x3C ∨ first = 0x5B) := by
    cases writable with
    | array =>
        obtain ⟨_, start, _, _⟩ := laid.uncons rfl
        exact ⟨_, _, start, .inr rfl⟩
    | dictionary =>
        obtain ⟨_, start, _, _⟩ := laid.uncons rfl
        exact ⟨_, _, start, .inl rfl⟩
    | _ => cases deep
  have step : next? (K := K) size (fuel + 1) text = _ :=
    next_operand found (by rcases opens with rfl | rfl <;> rfl)
  -- With more room, the operand would be read. What is read with less is the same operand, and it
  -- is nested within the limit.
  cases read : operand (K := K) size (operandFuel fuel) nestingLimit (first :: start) with
  | error fault =>
      refine ⟨fault, ?_⟩
      rw [step, read]
      rfl
  | ok other =>
      obtain ⟨_, _, whole⟩ := readsBack_of_writable writable (Nat.le_refl _) laid
      have within := (readsSoundly size _).operand read
      rw [found] at whole
      have same := within.unique whole
      have bounded : other.1.nesting ≤ nestingLimit := within.nesting_le
      rw [same] at bounded
      exact absurd deep (Nat.not_lt_of_le bounded)

/-- The tokens are the written operands before the first that is nested too deep, and there is an
error if there is such a one. -/
theorem tokensFrom_written {operands : List (Operand K)}
    (writable : ∀ operand ∈ operands, operand.Writable)
    (laid : Laid (operands.flatMap (Operand.lexemes digits)) text) (enough : text.length < fuel)
    (read : Array (Token K)) :
    (tokensFrom size fuel read text).tokens.toList = read.toList ++
        (operands.takeWhile fun operand => operand.nesting ≤ nestingLimit).map Token.operand ∧
      ((tokensFrom size fuel read text).fault? = none ↔
        ∀ operand ∈ operands, operand.nesting ≤ nestingLimit) := by
  induction operands generalizing text fuel read with
  | nil =>
      obtain ⟨fuel, rfl⟩ := Nat.exists_eq_succ_of_ne_zero (Nat.ne_zero_of_lt enough)
      have ended : next? (K := K) size (fuel + 1) text = .ok none := next_nil laid.nothing
      simp [tokensFrom_none read ended]
  | cons operand others ih =>
      obtain ⟨fuel, rfl⟩ := Nat.exists_eq_succ_of_ne_zero (Nat.ne_zero_of_lt enough)
      rw [List.flatMap_cons] at laid
      have writableFirst := writable operand List.mem_cons_self
      by_cases shallow : operand.nesting ≤ nestingLimit
      · obtain ⟨rest, laid, found⟩ := next_written size writableFirst shallow laid enough
        have shorter := (behind_next found).shorter
        obtain ⟨tokens, fault⟩ := ih
          (fun operand member => writable operand (List.mem_cons_of_mem _ member)) laid
          (Nat.lt_of_lt_of_le shorter (Nat.le_of_lt_succ enough)) (read.push (.operand operand))
        rw [tokensFrom_token read found]
        refine ⟨?_, ?_⟩
        · rw [tokens]
          simp [shallow]
        · rw [fault]
          simp [shallow]
      · obtain ⟨fault, found⟩ := next_too_deep size writableFirst
          (Nat.lt_of_not_le shallow) laid enough
        rw [tokensFrom_error read found]
        simp [shallow]

/-- Operands that are written one behind the other, with white space between their lexemes, are
read as the same operands and nothing else. Behind the operands before one of more than 256
containers inside each other, there is an error. -/
theorem lexing_undoes_writing (digits : HexDigits) (operands : List (Operand K))
    (writable : ∀ operand ∈ operands, operand.Writable) (text : List UInt8)
    (laid : Laid (operands.flatMap (Operand.lexemes digits)) text) :
    let lexed : Lexed K := tokens text
    ((∀ operand ∈ operands, operand.nesting ≤ 256) →
        lexed.tokens.toList = operands.map Token.operand ∧ lexed.fault? = none) ∧
      ∀ before deep after, operands = before ++ deep :: after →
        (∀ operand ∈ before, operand.nesting ≤ 256) → 256 < deep.nesting →
        lexed.tokens.toList = before.map Token.operand ∧ ∃ fault, lexed.fault? = some fault := by
  intro lexed
  have answered : lexed = tokensFrom text.length (text.length + 1) #[] text := tokens_eq text
  obtain ⟨read, ended⟩ : lexed.tokens.toList = [] ++
        (operands.takeWhile fun operand => operand.nesting ≤ nestingLimit).map Token.operand ∧
      (lexed.fault? = none ↔ ∀ operand ∈ operands, operand.nesting ≤ nestingLimit) := by
    rw [answered]
    exact tokensFrom_written writable laid (Nat.lt_succ_self _) #[]
  rw [List.nil_append] at read
  refine ⟨?_, ?_⟩
  · intro shallow
    have all : operands.takeWhile (fun operand => operand.nesting ≤ nestingLimit) = operands :=
      List.takeWhile_eq_self_iff.mpr fun operand member => decide_eq_true (shallow operand member)
    exact ⟨by rw [read, all], ended.mpr shallow⟩
  · rintro before deep after rfl shallow large
    refine ⟨?_, Option.ne_none_iff_exists'.mp ?_⟩
    · have first : ∀ operand ∈ before, decide (operand.nesting ≤ nestingLimit) = true :=
        fun operand member => decide_eq_true (shallow operand member)
      have last : ¬ deep.nesting ≤ nestingLimit := Nat.not_le_of_lt large
      rw [read, List.takeWhile_append_of_pos first]
      simp [last]
    · intro silent
      have bounded := ended.mp silent deep (by simp)
      exact Nat.not_lt_of_le bounded large

/-- The text `[ -12 /A#20B ] << /K (\() /K <AB> >> true`, with a space before each lexeme. -/
theorem array_dictionary_and_boolean_are_read_back :
    let operands : List (Operand Float) :=
      [.array [.integer (-12), .name "A B"],
        .dictionary [("K", .literal [0x28]), ("K", .hexadecimal [0xAB])], .boolean true]
    let text : List UInt8 :=
      [0x20, 0x5B, 0x20, 0x2D, 0x31, 0x32, 0x20, 0x2F, 0x41, 0x23, 0x32, 0x30, 0x42, 0x20, 0x5D,
        0x20, 0x3C, 0x3C, 0x20, 0x2F, 0x4B, 0x20, 0x28, 0x5C, 0x28, 0x29,
        0x20, 0x2F, 0x4B, 0x20, 0x3C, 0x41, 0x42, 0x3E, 0x20, 0x3E, 0x3E,
        0x20, 0x74, 0x72, 0x75, 0x65]
    (∀ operand ∈ operands, operand.Writable) ∧
      Laid (operands.flatMap (Operand.lexemes .upper)) text ∧
      (tokens text).tokens.toList = operands.map Token.operand := by
  intro operands text
  have writable : ∀ operand ∈ operands, operand.Writable := by
    simp only [operands, List.forall_mem_cons, List.not_mem_nil]
    refine ⟨.array ?_, .dictionary ?_, .boolean, nofun⟩
    · simp only [List.forall_mem_cons, List.not_mem_nil]
      exact ⟨.integer (by decide) (by decide), .name, nofun⟩
    · simp only [List.forall_mem_cons, List.not_mem_nil]
      exact ⟨.literal, .hexadecimal, nofun⟩
  have laid : Laid (operands.flatMap (Operand.lexemes .upper)) text :=
    laid_spaced (operands.flatMap (Operand.lexemes .upper))
  refine ⟨writable, laid, ?_⟩
  exact ((lexing_undoes_writing .upper operands writable text laid).1 (by decide)).1

end Content

end PdfElements
