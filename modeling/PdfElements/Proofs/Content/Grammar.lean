import PdfElements.Proofs.Content.Scanning

/-! The grammar of operands. `Reads` says what bytes are read as, without regard to the fuel that
reading takes: the lexer reads an operand exactly if the grammar does. What holds of the grammar by
induction, holds of the lexer: it reads an end of the bytes, reads the same when more follows, and
reads nothing that nests deeper than there is room for. -/

set_option autoImplicit false

namespace PdfElements

variable {K : Type}

namespace Operand

mutual

/-- How many arrays and dictionaries stand inside each other, the operand itself included. -/
def nesting : Operand K → Nat
  | .array items => nestingOfItems items + 1
  | .dictionary entries => nestingOfEntries entries + 1
  | _ => 0

def nestingOfItems : List (Operand K) → Nat
  | [] => 0
  | item :: rest => max (nesting item) (nestingOfItems rest)

def nestingOfEntries : List (String × Operand K) → Nat
  | [] => 0
  | (_, value) :: rest => max (nesting value) (nestingOfEntries rest)

end

end Operand

namespace Content

/-- What bytes are read as: an operand, or what is left of an array or of a dictionary. -/
inductive Phrase (K : Type) where
  | operand (value : Operand K)
  | items (items : List (Operand K))
  | entries (entries : List (String × Operand K))

def Phrase.nesting : Phrase K → Nat
  | .operand value => value.nesting
  | .items values => Operand.nestingOfItems values
  | .entries values => Operand.nestingOfEntries values

theorem nesting_keywordOperand (word : String) :
    (keywordOperand word : Operand K).nesting = 0 := by
  unfold keywordOperand
  split
  · rfl
  · split
    · rfl
    · split <;> rfl

variable [Scalar K]

theorem nesting_number (bytes : List UInt8) :
    (number (K := K) bytes).1.nesting = 0 := by
  simp only [number, integerOperand, realOperand]
  split
  · split <;> rfl
  · split
    · rfl
    · split <;> rfl

/-! ### The bytes that an operand begins with -/

/-- A regular byte is none that a string, a container or a name begins with. -/
theorem ne_of_isRegular {byte : UInt8} (regular : isRegular byte = true) :
    byte ≠ 0x28 ∧ byte ≠ 0x3C ∧ byte ≠ 0x5B ∧ byte ≠ 0x2F := by
  refine ⟨?_, ?_, ?_, ?_⟩ <;> rintro rfl <;> cases regular

/-- What bytes may begin with where an operand is expected. -/
inductive OperandStart : List UInt8 → Prop where
  | nothing : OperandStart []
  | literal {bytes : List UInt8} : OperandStart (0x28 :: bytes)
  | dictionary {bytes : List UInt8} : OperandStart (0x3C :: 0x3C :: bytes)
  | hexadecimal {bytes : List UInt8} : bytes.head? ≠ some 0x3C → OperandStart (0x3C :: bytes)
  | array {bytes : List UInt8} : OperandStart (0x5B :: bytes)
  | name {bytes : List UInt8} : OperandStart (0x2F :: bytes)
  | number {byte : UInt8} {bytes : List UInt8} : beginsNumber byte = true →
      OperandStart (byte :: bytes)
  | keyword {byte : UInt8} {bytes : List UInt8} : isRegular byte = true →
      beginsNumber byte = false → OperandStart (byte :: bytes)
  | other {byte : UInt8} {bytes : List UInt8} :
      byte ≠ 0x28 ∧ byte ≠ 0x3C ∧ byte ≠ 0x5B ∧ byte ≠ 0x2F → isRegular byte = false →
      OperandStart (byte :: bytes)

theorem operandStart (bytes : List UInt8) : OperandStart bytes := by
  cases bytes with
  | nil => exact .nothing
  | cons byte bytes =>
      by_cases literal : byte = 0x28
      · exact literal ▸ .literal
      by_cases angle : byte = 0x3C
      · subst angle
        by_cases double : bytes.head? = some 0x3C
        · obtain ⟨bytes, rfl⟩ := List.head?_eq_some_iff.mp double
          exact .dictionary
        · exact .hexadecimal double
      by_cases array : byte = 0x5B
      · exact array ▸ .array
      by_cases name : byte = 0x2F
      · exact name ▸ .name
      cases regular : isRegular byte with
      | false => exact .other ⟨literal, angle, array, name⟩ regular
      | true =>
          cases begins : beginsNumber byte with
          | true => exact .number begins
          | false => exact .keyword regular begins

section equations

variable {size fuel levels : Nat} {bytes : List UInt8} {byte : UInt8}

theorem operand_literal : operand (K := K) size (fuel + 1) levels (0x28 :: bytes) =
    literal bytes >>= fun read => .ok (.literal read.1, read.2) := by
  simp only [operand, if_true]
  rfl

theorem operand_dictionary : operand (K := K) size (fuel + 1) (levels + 1) (0x3C :: 0x3C :: bytes) =
    entriesFrom size fuel levels [] bytes >>= fun read => .ok (.dictionary read.1, read.2) := by
  have distinct : (0x3C : UInt8) ≠ 0x28 := by decide
  simp only [operand, distinct, if_true, if_false]
  rfl

theorem operand_dictionary_refused : operand (K := K) size (fuel + 1) 0 (0x3C :: 0x3C :: bytes) =
    .error (.tooDeep (size - (0x3C :: 0x3C :: bytes).length)) := by
  have distinct : (0x3C : UInt8) ≠ 0x28 := by decide
  simp only [operand, distinct, if_true, if_false]

theorem operand_hexadecimal (single : bytes.head? ≠ some 0x3C) :
    operand (K := K) size (fuel + 1) levels (0x3C :: bytes) =
      hexadecimalFrom [] bytes >>= fun read => .ok (.hexadecimal read.1, read.2) := by
  have distinct : (0x3C : UInt8) ≠ 0x28 := by decide
  simp only [operand, distinct, if_true, if_false]
  split
  · exact absurd rfl single
  · rfl

theorem operand_array : operand (K := K) size (fuel + 1) (levels + 1) (0x5B :: bytes) =
    itemsFrom size fuel levels [] bytes >>= fun read => .ok (.array read.1, read.2) := by
  have distinct : (0x5B : UInt8) ≠ 0x28 ∧ (0x5B : UInt8) ≠ 0x3C := by decide
  simp only [operand, distinct, if_true, if_false]
  rfl

theorem operand_array_refused : operand (K := K) size (fuel + 1) 0 (0x5B :: bytes) =
    .error (.tooDeep (size - bytes.length)) := by
  have distinct : (0x5B : UInt8) ≠ 0x28 ∧ (0x5B : UInt8) ≠ 0x3C := by decide
  simp only [operand, distinct, if_true, if_false]

theorem operand_name : operand (K := K) size (fuel + 1) levels (0x2F :: bytes) =
    .ok (.name (name bytes).1, (name bytes).2) := by
  have distinct : (0x2F : UInt8) ≠ 0x28 ∧ (0x2F : UInt8) ≠ 0x3C ∧ (0x2F : UInt8) ≠ 0x5B := by
    decide
  simp only [operand, distinct, if_true, if_false]

theorem operand_number (begins : beginsNumber byte = true) :
    operand (K := K) size (fuel + 1) levels (byte :: bytes) = .ok (number (byte :: bytes)) := by
  simp only [operand, ne_of_isRegular (isRegular_of_beginsNumber byte begins), begins, if_true,
    if_false]

theorem operand_keyword (regular : isRegular byte = true) (word : beginsNumber byte = false) :
    operand (K := K) size (fuel + 1) levels (byte :: bytes) =
      .ok (keywordOperand (keyword (byte :: bytes)).1, (keyword (byte :: bytes)).2) := by
  simp only [operand, ne_of_isRegular regular, word, regular, if_true, if_false, Bool.false_eq_true]

theorem operand_other
    (distinct : byte ≠ 0x28 ∧ byte ≠ 0x3C ∧ byte ≠ 0x5B ∧ byte ≠ 0x2F)
    (irregular : isRegular byte = false) :
    operand (K := K) size (fuel + 1) levels (byte :: bytes) =
      .error (.unexpectedByte byte (size - (byte :: bytes).length)) := by
  have word : beginsNumber byte = false :=
    Bool.eq_false_iff.mpr fun begins =>
      Bool.eq_false_iff.mp irregular (isRegular_of_beginsNumber byte begins)
  simp only [operand, distinct, word, irregular, if_false, Bool.false_eq_true]

end equations

/-! ### The grammar -/

/-- With room for `levels` more containers, the bytes are read as a phrase that leaves the rest. -/
inductive Reads : (levels : Nat) → List UInt8 → Phrase K → List UInt8 → Prop where
  | literal {levels bytes value rest} : literal bytes = .ok (value, rest) →
      Reads levels (0x28 :: bytes) (.operand (.literal value)) rest
  | hexadecimal {levels bytes value rest} : hexadecimalFrom [] bytes = .ok (value, rest) →
      Reads levels (0x3C :: bytes) (.operand (.hexadecimal value)) rest
  | dictionary {levels bytes entries rest} : Reads levels bytes (.entries entries) rest →
      Reads (levels + 1) (0x3C :: 0x3C :: bytes) (.operand (.dictionary entries)) rest
  | array {levels bytes items rest} : Reads levels bytes (.items items) rest →
      Reads (levels + 1) (0x5B :: bytes) (.operand (.array items)) rest
  | name {levels bytes value rest} : name bytes = (value, rest) →
      Reads levels (0x2F :: bytes) (.operand (.name value)) rest
  | number {levels byte bytes value rest} : beginsNumber byte = true →
      number (byte :: bytes) = (value, rest) →
      Reads levels (byte :: bytes) (.operand value) rest
  | keyword {levels byte bytes word rest} : beginsNumber byte = false → isRegular byte = true →
      keyword (byte :: bytes) = (word, rest) →
      Reads levels (byte :: bytes) (.operand (keywordOperand word)) rest
  | noItems {levels bytes rest} : skipBlanks bytes = 0x5D :: rest →
      Reads levels bytes (.items []) rest
  | item {levels bytes item middle items rest} :
      Reads levels (skipBlanks bytes) (.operand item) middle →
      Reads levels middle (.items items) rest → Reads levels bytes (.items (item :: items)) rest
  | noEntries {levels bytes rest} : skipBlanks bytes = 0x3E :: 0x3E :: rest →
      Reads levels bytes (.entries []) rest
  | entry {levels bytes start key behind value middle entries rest} :
      skipBlanks bytes = 0x2F :: start → Content.name start = (key, behind) →
      Reads levels (skipBlanks behind) (.operand value) middle →
      Reads levels middle (.entries entries) rest →
      Reads levels bytes (.entries ((key, value) :: entries)) rest

namespace Reads

variable {levels : Nat} {bytes rest : List UInt8} {phrase : Phrase K}

theorem behind (reads : Reads levels bytes phrase rest) : Behind bytes rest := by
  induction reads with
  | literal scanned => exact .cons _ (Literal.behind_scan scanned).suffix
  | hexadecimal scanned => exact .cons _ (behind_hexadecimalFrom scanned).suffix
  | dictionary _ ih => exact .cons _ (ih.suffix.trans (List.suffix_cons _ _))
  | array _ ih => exact .cons _ ih.suffix
  | name scanned =>
      cases scanned
      exact .cons _ (List.dropWhile_suffix isRegular)
  | @number _ byte bytes _ _ begins scanned =>
      have behind := behind_number (K := K) bytes begins
      rwa [scanned] at behind
  | @keyword _ byte bytes _ _ _ regular scanned =>
      have behind := behind_keyword bytes regular
      rwa [scanned] at behind
  | @noItems _ bytes _ found =>
      exact .of_suffix (found ▸ skipBlanks_suffix bytes) (.cons _ (List.suffix_refl _))
  | @item _ bytes _ _ _ _ _ _ first more =>
      exact (Behind.of_suffix (skipBlanks_suffix bytes) first).trans more.suffix
  | @noEntries _ bytes _ found =>
      exact .of_suffix (found ▸ skipBlanks_suffix bytes) (.cons _ (List.suffix_cons _ _))
  | entry found named _ _ first more =>
      cases named
      exact (behind_key found).trans (more.suffix.trans first.suffix)

/-- What is read stays the same when more bytes follow, if those do not continue a word. -/
theorem append (reads : Reads levels bytes phrase rest) {tail : List UInt8}
    (ends : endsWord tail = true) : Reads levels (bytes ++ tail) phrase (rest ++ tail) := by
  induction reads with
  | literal scanned => exact .literal (Literal.scan_append scanned tail)
  | hexadecimal scanned => exact .hexadecimal (hexadecimalFrom_append scanned tail)
  | dictionary _ ih => exact .dictionary ih
  | array _ ih => exact .array ih
  | @name _ bytes _ _ scanned =>
      exact .name ((name_append bytes ends).trans (by rw [scanned]))
  | @number _ byte bytes _ _ begins scanned =>
      exact .number begins ((number_append (byte :: bytes) ends).trans (by rw [scanned]))
  | @keyword _ byte bytes _ _ word regular scanned =>
      exact .keyword word regular ((keyword_append (byte :: bytes) ends).trans (by rw [scanned]))
  | noItems found => exact .noItems (skipBlanks_append found tail)
  | @item _ bytes _ _ _ _ first _ ihFirst ihMore =>
      cases found : skipBlanks bytes with
      | nil =>
          rw [found] at first
          exact absurd first.behind.shorter (Nat.not_lt_zero _)
      | cons byte start =>
          rw [found] at ihFirst
          exact .item (by rwa [skipBlanks_append found tail]) ihMore
  | noEntries found => exact .noEntries (skipBlanks_append found tail)
  | @entry _ _ start key behind _ _ _ _ found named first _ ihFirst ihMore =>
      cases word : skipBlanks behind with
      | nil =>
          rw [word] at first
          exact absurd first.behind.shorter (Nat.not_lt_zero _)
      | cons byte value =>
          rw [word] at ihFirst
          exact .entry (skipBlanks_append found tail)
            (by rw [name_append start ends, named])
            (by rwa [skipBlanks_append word tail]) ihMore

theorem nesting_le (reads : Reads levels bytes phrase rest) : phrase.nesting ≤ levels := by
  induction reads with
  | literal | hexadecimal | name | noItems | noEntries => exact Nat.zero_le _
  | dictionary _ ih | array _ ih => exact Nat.succ_le_succ ih
  | @number _ byte bytes _ _ _ scanned =>
      have flat := nesting_number (K := K) (byte :: bytes)
      rw [scanned] at flat
      exact Nat.le_trans (Nat.le_of_eq flat) (Nat.zero_le _)
  | keyword => exact Nat.le_trans (Nat.le_of_eq (nesting_keywordOperand _)) (Nat.zero_le _)
  | item _ _ first more | entry _ _ _ _ first more => exact Nat.max_le.mpr ⟨first, more⟩

theorem mono (reads : Reads levels bytes phrase rest) {room : Nat} (le : levels ≤ room) :
    Reads room bytes phrase rest := by
  induction reads generalizing room with
  | literal scanned => exact .literal scanned
  | hexadecimal scanned => exact .hexadecimal scanned
  | dictionary _ ih =>
      cases room with
      | zero => cases le
      | succ room => exact .dictionary (ih (Nat.le_of_succ_le_succ le))
  | array _ ih =>
      cases room with
      | zero => cases le
      | succ room => exact .array (ih (Nat.le_of_succ_le_succ le))
  | name scanned => exact .name scanned
  | number begins scanned => exact .number begins scanned
  | keyword word regular scanned => exact .keyword word regular scanned
  | noItems found => exact .noItems found
  | item _ _ first more => exact .item (first le) (more le)
  | noEntries found => exact .noEntries found
  | entry found named _ _ first more => exact .entry found named (first le) (more le)

end Reads

/-- The lexer, with some fuel, reads only what the grammar does. -/
structure ReadsSoundly (K : Type) [Scalar K] (size fuel : Nat) : Prop where
  operand {levels : Nat} {bytes rest : List UInt8} {value : Operand K} :
    operand size fuel levels bytes = .ok (value, rest) → Reads levels bytes (.operand value) rest
  items {levels : Nat} {bytes rest : List UInt8} {reversed items : List (Operand K)} :
    itemsFrom size fuel levels reversed bytes = .ok (items, rest) →
      ∃ more, items = reversed.reverse ++ more ∧ Reads levels bytes (.items more) rest
  entries {levels : Nat} {bytes rest : List UInt8} {reversed entries : List (String × Operand K)} :
    entriesFrom size fuel levels reversed bytes = .ok (entries, rest) →
      ∃ more, entries = reversed.reverse ++ more ∧ Reads levels bytes (.entries more) rest

namespace ReadsSoundly

variable {size fuel levels : Nat} {bytes rest : List UInt8}

private theorem operand_succ (sound : ReadsSoundly K size fuel) {value : Operand K}
    (found : Content.operand size (fuel + 1) levels bytes = .ok (value, rest)) :
    Reads levels bytes (.operand value) rest := by
  cases operandStart bytes with
  | nothing =>
      rw [operand_nil] at found
      cases found
  | literal =>
      rw [operand_literal] at found
      obtain ⟨read, scanned, same⟩ := bind_ok found
      cases same
      exact .literal scanned
  | dictionary =>
      cases levels with
      | zero =>
          rw [operand_dictionary_refused] at found
          cases found
      | succ levels =>
          rw [operand_dictionary] at found
          obtain ⟨read, scanned, same⟩ := bind_ok found
          cases same
          obtain ⟨more, same, reads⟩ := sound.entries scanned
          exact .dictionary (same ▸ reads)
  | hexadecimal single =>
      rw [operand_hexadecimal single] at found
      obtain ⟨read, scanned, same⟩ := bind_ok found
      cases same
      exact .hexadecimal scanned
  | array =>
      cases levels with
      | zero =>
          rw [operand_array_refused] at found
          cases found
      | succ levels =>
          rw [operand_array] at found
          obtain ⟨read, scanned, same⟩ := bind_ok found
          cases same
          obtain ⟨more, same, reads⟩ := sound.items scanned
          exact .array (same ▸ reads)
  | name =>
      rw [operand_name] at found
      cases found
      exact .name rfl
  | number begins =>
      rw [operand_number begins] at found
      exact .number begins (Except.ok.inj found)
  | keyword regular word =>
      rw [operand_keyword regular word] at found
      cases found
      exact .keyword word regular rfl
  | other distinct irregular =>
      rw [operand_other distinct irregular] at found
      cases found

private theorem items_succ (sound : ReadsSoundly K size fuel) {reversed items : List (Operand K)}
    (found : itemsFrom size (fuel + 1) levels reversed bytes = .ok (items, rest)) :
    ∃ more, items = reversed.reverse ++ more ∧ Reads levels bytes (.items more) rest := by
  simp only [itemsFrom] at found
  split at found
  · cases found
  · next ending =>
      cases found
      exact ⟨[], (List.append_nil _).symm, .noItems ending⟩
  · obtain ⟨⟨item, middle⟩, first, found⟩ := bind_ok found
    obtain ⟨more, rfl, reads⟩ := sound.items found
    exact ⟨item :: more, by simp, .item (sound.operand first) reads⟩

private theorem entries_succ (sound : ReadsSoundly K size fuel)
    {reversed entries : List (String × Operand K)}
    (found : entriesFrom size (fuel + 1) levels reversed bytes = .ok (entries, rest)) :
    ∃ more, entries = reversed.reverse ++ more ∧ Reads levels bytes (.entries more) rest := by
  simp only [entriesFrom] at found
  split at found
  · cases found
  · next ending =>
      cases found
      exact ⟨[], (List.append_nil _).symm, .noEntries ending⟩
  · next start slash =>
      obtain ⟨⟨value, middle⟩, first, found⟩ := bind_ok found
      obtain ⟨more, rfl, reads⟩ := sound.entries found
      exact ⟨((name start).1, value) :: more, by simp,
        .entry slash rfl (sound.operand first) reads⟩
  · cases found

end ReadsSoundly

theorem readsSoundly (size fuel : Nat) : ReadsSoundly K size fuel := by
  induction fuel with
  | zero => exact ⟨nofun, nofun, nofun⟩
  | succ fuel ih => exact ⟨ih.operand_succ, ih.items_succ, ih.entries_succ⟩

/-- With so much fuel, the lexer reads a phrase from the bytes. -/
def Phrase.ReadFrom (size fuel levels : Nat) (bytes : List UInt8) :
    Phrase K → List UInt8 → Prop
  | .operand value, rest => Content.operand size fuel levels bytes = .ok (value, rest)
  | .items values, rest => ∀ reversed,
      itemsFrom size fuel levels reversed bytes = .ok (reversed.reverse ++ values, rest)
  | .entries values, rest => ∀ reversed,
      entriesFrom size fuel levels reversed bytes = .ok (reversed.reverse ++ values, rest)

def Phrase.Enough (fuel : Nat) (bytes : List UInt8) : Phrase K → Prop
  | .operand _ => 2 * bytes.length < fuel
  | .items _ | .entries _ => 2 * bytes.length + 1 < fuel

omit [Scalar K] in
theorem Phrase.Enough.succ {fuel : Nat} {bytes : List UInt8} {phrase : Phrase K}
    (enough : phrase.Enough fuel bytes) : ∃ less, fuel = less + 1 := by
  refine Nat.exists_eq_succ_of_ne_zero ?_
  rintro rfl
  cases phrase <;> cases enough

private theorem Reads.not_closing {levels : Nat} {bytes rest : List UInt8} {value : Operand K} :
    ¬ Reads levels (0x5D :: bytes) (.operand value) rest := by
  intro reads
  cases reads with
  | number begins => cases begins
  | keyword _ regular => cases regular

/-- The lexer reads all that the grammar reads, if it has fuel enough for the bytes. -/
theorem Reads.readFrom {levels : Nat} {bytes rest : List UInt8} {phrase : Phrase K}
    (reads : Reads levels bytes phrase rest) (size : Nat) {fuel : Nat}
    (enough : phrase.Enough fuel bytes) : phrase.ReadFrom size fuel levels bytes rest := by
  -- A container passes less fuel on than it has, so the induction is for all amounts at once. What
  -- is enough for the bytes of a part follows from the part being shorter.
  induction reads generalizing fuel with
  | literal scanned =>
      obtain ⟨fuel, rfl⟩ := enough.succ
      exact operand_literal.trans (bind_of_ok scanned _)
  | @hexadecimal _ bytes _ _ scanned =>
      obtain ⟨fuel, rfl⟩ := enough.succ
      have single : bytes.head? ≠ some 0x3C := by
        intro double
        obtain ⟨bytes, rfl⟩ := List.head?_eq_some_iff.mp double
        cases scanned
      exact (operand_hexadecimal single).trans (bind_of_ok scanned _)
  | dictionary _ ih =>
      obtain ⟨fuel, rfl⟩ := enough.succ
      simp only [Phrase.Enough, List.length_cons] at enough ih
      exact operand_dictionary.trans (bind_of_ok (ih (by omega) []) _)
  | array _ ih =>
      obtain ⟨fuel, rfl⟩ := enough.succ
      simp only [Phrase.Enough, List.length_cons] at enough ih
      exact operand_array.trans (bind_of_ok (ih (by omega) []) _)
  | name scanned =>
      obtain ⟨fuel, rfl⟩ := enough.succ
      exact operand_name.trans (by rw [scanned])
  | number begins scanned =>
      obtain ⟨fuel, rfl⟩ := enough.succ
      exact (operand_number begins).trans (by rw [scanned])
  | keyword word regular scanned =>
      obtain ⟨fuel, rfl⟩ := enough.succ
      exact (operand_keyword regular word).trans (by rw [scanned])
  | noItems found =>
      obtain ⟨fuel, rfl⟩ := enough.succ
      intro reversed
      simp only [itemsFrom, found, List.append_nil]
  | @item _ bytes item middle _ _ first _ ihFirst ihMore =>
      obtain ⟨fuel, rfl⟩ := enough.succ
      intro reversed
      have shorter := Nat.lt_of_lt_of_le first.behind.shorter
        (skipBlanks_suffix bytes).length_le
      have within := (skipBlanks_suffix bytes).length_le
      simp only [Phrase.Enough] at enough ihFirst ihMore
      have read : operand size fuel _ (skipBlanks bytes) = .ok (item, middle) :=
        ihFirst (by omega)
      have left : itemsFrom size fuel _ (item :: reversed) middle = _ := ihMore (by omega) _
      simp only [itemsFrom]
      split
      · next nothing =>
          rw [nothing] at first
          exact absurd first.behind.shorter (Nat.not_lt_zero _)
      · next closing =>
          rw [closing] at first
          exact absurd first Reads.not_closing
      · exact (bind_of_ok read _).trans (left.trans (by simp))
  | noEntries found =>
      obtain ⟨fuel, rfl⟩ := enough.succ
      intro reversed
      simp only [entriesFrom, found, List.append_nil]
  | @entry _ bytes start key behind value middle _ _ found named first _ ihFirst ihMore =>
      obtain ⟨fuel, rfl⟩ := enough.succ
      intro reversed
      have within : (skipBlanks behind).length < bytes.length := by
        simpa only [named] using (behind_key found).shorter
      have shorter := first.behind.shorter
      simp only [Phrase.Enough] at enough ihFirst ihMore
      have read : operand size fuel _ (skipBlanks behind) = .ok (value, middle) :=
        ihFirst (by omega)
      have left : entriesFrom size fuel _ ((key, value) :: reversed) middle = _ :=
        ihMore (by omega) _
      simp only [entriesFrom, found, named]
      exact (bind_of_ok read _).trans (left.trans (by simp))

theorem operand_iff_reads {levels fuel : Nat} {bytes rest : List UInt8} {value : Operand K}
    (size : Nat) (enough : 2 * bytes.length < fuel) :
    operand size fuel levels bytes = .ok (value, rest) ↔
      Reads levels bytes (.operand value) rest :=
  ⟨(readsSoundly size fuel).operand, fun reads => reads.readFrom size enough⟩

end Content

end PdfElements
