import Mathlib.Data.List.Basic
import Mathlib.Data.List.TakeWhile
import PdfElements.Proofs.Content.Grammar

/-! A lexer and the bytes that are left for it. What its scanners read from where they stand is what
there is to read from the bytes that are left, and they come to stand before the rest of these. They
look at no index outside of the input. -/

set_option autoImplicit false

namespace PdfElements.Content

namespace Lexer

def left (lexer : Lexer) : List UInt8 := lexer.input.toList.drop lexer.position

theorem length_left (lexer : Lexer) : lexer.left.length = lexer.remaining := by
  rw [left, List.length_drop, Array.length_toList, remaining]

/-- The lexer where these bytes are left. -/
def before (lexer : Lexer) (bytes : List UInt8) : Lexer :=
  { lexer with position := lexer.input.size - bytes.length }

theorem before_left {lexer : Lexer} (inside : lexer.position ≤ lexer.input.size) :
    lexer.before lexer.left = lexer := by
  have count : lexer.input.size - (lexer.input.size - lexer.position) = lexer.position := by omega
  simp only [before, left, List.length_drop, Array.length_toList, count]

/-- What came out of a scanner is what there is to read: it stands before the rest of the bytes,
and somewhere in the bytes if it failed. -/
inductive Follows (lexer : Lexer) (bytes : List UInt8) {α : Type} :
    Except LexFault α × Lexer → Except LexFault (α × List UInt8) → Prop where
  | ok {value : α} {rest : List UInt8} : rest <:+ bytes →
      Follows lexer bytes (.ok value, lexer.before rest) (.ok (value, rest))
  | error {fault : LexFault} {rest : List UInt8} : rest <:+ bytes →
      Follows lexer bytes (.error fault, lexer.before rest) (.error fault)

variable {lexer : Lexer} {bytes rest : List UInt8} {α β : Type}

theorem Follows.of_suffix {outcome : Except LexFault α × Lexer}
    {result : Except LexFault (α × List UInt8)} (follows : Follows lexer rest outcome result)
    (suffix : rest <:+ bytes) : Follows lexer bytes outcome result := by
  cases follows with
  | ok behind => exact .ok (behind.trans suffix)
  | error behind => exact .error (behind.trans suffix)

theorem Follows.answer {outcome : Except LexFault α × Lexer}
    {result : Except LexFault (α × List UInt8)} (follows : Follows lexer bytes outcome result) :
    outcome.1 = result.map Prod.fst := by
  cases follows <;> rfl

theorem Follows.eq_before {outcome : Except LexFault α × Lexer} {value : α}
    (follows : Follows lexer bytes outcome (.ok (value, rest))) :
    outcome = (.ok value, lexer.before rest) := by
  cases follows
  rfl

/-! ### Steps of scanners -/

section steps

theorem run_bind (scan : Scan α) (next : α → Scan β) (lexer : Lexer) :
    (scan >>= next) lexer = ExceptT.bindCont next (scan lexer).1 (scan lexer).2 := rfl

theorem bind_run {scan : Scan α} {behind : Lexer} {value : α}
    (run : scan lexer = (.ok value, behind)) (next : α → Scan β) :
    (scan >>= next) lexer = next value behind := by
  rw [run_bind, run]
  rfl

theorem get_bind (next : Lexer → Scan β) (lexer : Lexer) :
    ((get : Scan Lexer) >>= next) lexer = next lexer lexer := rfl

theorem position_before (within : bytes <:+ lexer.input.toList) :
    (lexer.before bytes).position + bytes.length = lexer.input.size := by
  have length := within.length_le
  rw [Array.length_toList] at length
  exact Nat.sub_add_cancel length

theorem remaining_before (within : bytes <:+ lexer.input.toList) :
    (lexer.before bytes).remaining = bytes.length := by
  have length := within.length_le
  rw [Array.length_toList] at length
  exact Nat.sub_sub_self length

theorem left_before (within : bytes <:+ lexer.input.toList) : (lexer.before bytes).left = bytes := by
  rw [left, before, ← Array.length_toList]
  exact (List.suffix_iff_eq_drop.mp within).symm

/-- The bytes of the input are those that are left, from where they are left. -/
theorem getElem?_before (within : bytes <:+ lexer.input.toList) (offset : Nat) :
    lexer.input.toList[(lexer.before bytes).position + offset]? = bytes[offset]? := by
  rw [← List.getElem?_drop]
  exact congrArg (·[offset]?) (left_before within)

theorem peekAt_bind (within : bytes <:+ lexer.input.toList) (offset : Nat)
    (next : Option UInt8 → Scan β) :
    (peekAt offset >>= next) (lexer.before bytes) = next bytes[offset]? (lexer.before bytes) := by
  have same := getElem?_before within offset
  rw [Array.getElem?_toList] at same
  rw [← same]
  rfl

theorem peek_bind (within : bytes <:+ lexer.input.toList) (next : Option UInt8 → Scan β) :
    (peek >>= next) (lexer.before bytes) = next bytes.head? (lexer.before bytes) := by
  rw [peek, peekAt_bind within, List.head?_eq_getElem?]

theorem advance_bind (within : bytes <:+ lexer.input.toList) (suffix : rest <:+ bytes)
    (next : Unit → Scan β) :
    (advance (bytes.length - rest.length) >>= next) (lexer.before bytes) =
      next () (lexer.before rest) := by
  have here := position_before within
  have there := position_before (suffix.trans within)
  have shorter := suffix.length_le
  have moved : (lexer.before bytes).position + (bytes.length - rest.length) =
      (lexer.before rest).position := by
    omega
  show next () { lexer.before bytes with position := _ } = _
  rw [moved]
  rfl

theorem advance_one_bind {byte : UInt8} (within : byte :: bytes <:+ lexer.input.toList)
    (next : Unit → Scan β) :
    (advance 1 >>= next) (lexer.before (byte :: bytes)) = next () (lexer.before bytes) := by
  have step := advance_bind within (List.suffix_cons byte bytes) next
  rwa [List.length_cons, Nat.add_sub_cancel_left] at step

theorem advance_two_bind {first second : UInt8}
    (within : first :: second :: bytes <:+ lexer.input.toList) (next : Unit → Scan β) :
    (advance 2 >>= next) (lexer.before (first :: second :: bytes)) = next () (lexer.before bytes) := by
  have behind := (List.suffix_cons second bytes).trans (List.suffix_cons first (second :: bytes))
  have step := advance_bind within behind next
  have count : (first :: second :: bytes).length - bytes.length = 2 := by
    rw [List.length_cons, List.length_cons]
    omega
  rwa [count] at step

theorem slice_run {start stop : Nat} (ordered : start ≤ stop) (inside : stop ≤ lexer.input.size) :
    slice start stop lexer = (.ok (lexer.input.extract start stop), lexer) := by
  rw [slice, get_bind, if_neg (Nat.not_lt_of_le ordered), if_neg (Nat.not_lt_of_le inside)]
  rfl

theorem slice_before {read : List UInt8} (within : read ++ rest <:+ lexer.input.toList)
    (left : List UInt8) :
    slice (lexer.before (read ++ rest)).position (lexer.before rest).position
      (lexer.before left) = (.ok read.toArray, lexer.before left) := by
  have start := position_before within
  have stop := position_before ((List.suffix_append read rest).trans within)
  rw [List.length_append] at start
  have ordered : (lexer.before (read ++ rest)).position ≤ (lexer.before rest).position := by omega
  have count : (lexer.before rest).position - (lexer.before (read ++ rest)).position =
      read.length := by omega
  have taken : lexer.input.extract (lexer.before (read ++ rest)).position
      (lexer.before rest).position = read.toArray := by
    rw [← Array.toList_inj, Array.toList_extract, List.extract_eq_take_drop, count]
    exact (congrArg (List.take read.length) (left_before within)).trans List.take_left
  have run : slice _ _ (lexer.before left) =
      (.ok (lexer.input.extract _ _), lexer.before left) := slice_run ordered (Nat.le.intro stop)
  rw [run, taken]

end steps

theorem Follows.bind {scan : Scan α} {next : α → Scan β}
    {result : Except LexFault (α × List UInt8)}
    {more : α × List UInt8 → Except LexFault (β × List UInt8)}
    (first : Follows lexer bytes (scan (lexer.before bytes)) result)
    (onward : ∀ value rest, result = .ok (value, rest) → rest <:+ bytes →
      Follows lexer rest (next value (lexer.before rest)) (more (value, rest))) :
    Follows lexer bytes ((scan >>= next) (lexer.before bytes)) (result >>= more) := by
  rw [run_bind]
  generalize scan (lexer.before bytes) = outcome at first
  cases first with
  | ok suffix => exact (onward _ _ rfl suffix).of_suffix suffix
  | error suffix => exact .error suffix

/-! ### Words -/

theorem passWhile_run (accepts : UInt8 → Bool) {fuel : Nat} (enough : bytes.length ≤ fuel)
    (within : bytes <:+ lexer.input.toList) :
    passWhile accepts fuel (lexer.before bytes) =
      (.ok (), lexer.before (bytes.dropWhile accepts)) := by
  induction fuel generalizing bytes with
  | zero =>
      rw [List.eq_nil_of_length_eq_zero (Nat.le_zero.mp enough)]
      rfl
  | succ fuel ih =>
      rw [passWhile, peek_bind within]
      cases bytes with
      | nil => rfl
      | cons byte rest =>
          cases accepted : accepts byte with
          | false =>
              simp [accepted]
              rfl
          | true =>
              have inner := (List.suffix_cons byte rest).trans within
              simp only [List.head?_cons, Option.any_some, accepted, if_true]
              rw [advance_one_bind within, List.dropWhile_cons_of_pos accepted]
              exact ih (Nat.le_of_succ_le_succ enough) inner

theorem takeWhile_run (accepts : UInt8 → Bool) (within : bytes <:+ lexer.input.toList) :
    Lexer.takeWhile accepts (lexer.before bytes) =
      (.ok (bytes.takeWhile accepts).toArray, lexer.before (bytes.dropWhile accepts)) := by
  have enough : bytes.length ≤ (lexer.before bytes).remaining :=
    Nat.le_of_eq (remaining_before within).symm
  rw [Lexer.takeWhile, get_bind, get_bind, bind_run (passWhile_run accepts enough within), get_bind]
  have split := bytes.takeWhile_append_dropWhile (p := accepts)
  have taken := slice_before (split.symm ▸ within) (bytes.dropWhile accepts)
  rwa [split] at taken

theorem keyword_run (within : bytes <:+ lexer.input.toList) :
    Lexer.keyword (lexer.before bytes) =
      (.ok (Content.keyword bytes).1, lexer.before (Content.keyword bytes).2) :=
  bind_run (takeWhile_run isRegular within) _

/-! ### White space -/

theorem isBlank_of_not_isInLine : ∀ byte, isInLine byte = false → isBlank byte = true :=
  forall_byte (by decide +kernel)

theorem skip_dropWhile_isInLine (bytes : List UInt8) :
    skip false (bytes.dropWhile isInLine) = skip true bytes := by
  induction bytes with
  | nil => rfl
  | cons byte rest ih =>
      cases inside : isInLine byte with
      | true =>
          have same : skip true (byte :: rest) = skip (isInLine byte) rest := rfl
          rw [List.dropWhile_cons_of_pos inside, ih, same, inside]
      | false =>
          have same : skip true (byte :: rest) = skip (isInLine byte) rest := rfl
          have blank := isBlank_of_not_isInLine byte inside
          rw [List.dropWhile_cons_of_neg (by simp [inside]), same, inside]
          simp [skip, blank]

theorem passBlanks_run {fuel : Nat} (enough : bytes.length ≤ fuel)
    (within : bytes <:+ lexer.input.toList) :
    passBlanks fuel (lexer.before bytes) = (.ok (), lexer.before (skip false bytes)) := by
  induction fuel generalizing bytes with
  | zero =>
      rw [List.eq_nil_of_length_eq_zero (Nat.le_zero.mp enough)]
      rfl
  | succ fuel ih =>
      rw [passBlanks, peek_bind within]
      cases bytes with
      | nil => rfl
      | cons byte rest =>
          have inner := (List.suffix_cons byte rest).trans within
          have less := Nat.le_of_succ_le_succ enough
          simp only [List.head?_cons, skip, Bool.false_eq_true, if_false]
          split
          · rw [advance_one_bind within, ih less inner]
          · split
            · next percent =>
                subst percent
                have behind := List.dropWhile_suffix (l := rest) isInLine
                have room : (0x25 :: rest).length ≤ (lexer.before (0x25 :: rest)).remaining :=
                  Nat.le_of_eq (remaining_before within).symm
                rw [get_bind, bind_run (passWhile_run isInLine room within),
                  List.dropWhile_cons_of_pos rfl, ih (Nat.le_trans behind.length_le less)
                  (behind.trans inner), skip_dropWhile_isInLine]
            · rfl

theorem skipBlanks_run (within : bytes <:+ lexer.input.toList) :
    Lexer.skipBlanks (lexer.before bytes) = (.ok (), lexer.before (Content.skipBlanks bytes)) :=
  passBlanks_run (Nat.le_of_eq (remaining_before within).symm) within

/-! ### Strings -/

theorem literalFrom_follows (literal : Literal) {fuel : Nat} (enough : bytes.length ≤ fuel)
    (within : bytes <:+ lexer.input.toList) :
    Follows lexer bytes (literalFrom fuel literal (lexer.before bytes)) (literal.scan bytes) := by
  induction fuel generalizing bytes literal with
  | zero =>
      rw [List.eq_nil_of_length_eq_zero (Nat.le_zero.mp enough)]
      exact .error (List.suffix_refl [])
  | succ fuel ih =>
      rw [literalFrom, peek_bind within]
      cases bytes with
      | nil => exact .error (List.suffix_refl [])
      | cons byte rest =>
          have behind := List.suffix_cons byte rest
          simp only [List.head?_cons, Literal.scan]
          rw [advance_one_bind within]
          cases literal.step byte with
          | ok literal =>
              exact (ih literal (Nat.le_of_succ_le_succ enough) (behind.trans within)).of_suffix
                behind
          | error value => exact .ok behind

theorem literal_follows {byte : UInt8} (within : byte :: bytes <:+ lexer.input.toList) :
    Follows lexer (byte :: bytes) (Lexer.literal (lexer.before (byte :: bytes)))
      (Content.literal bytes) := by
  have behind := List.suffix_cons byte bytes
  have inner := behind.trans within
  have room : bytes.length ≤ (lexer.before bytes).remaining :=
    Nat.le_of_eq (remaining_before inner).symm
  rw [Lexer.literal, advance_one_bind within, get_bind]
  exact (literalFrom_follows _ room inner).of_suffix behind

theorem digitsFrom_follows (reversed : List UInt8) {fuel : Nat} (enough : bytes.length ≤ fuel)
    (within : bytes <:+ lexer.input.toList) :
    ∃ digits, Follows lexer bytes (digitsFrom fuel reversed (lexer.before bytes)) digits ∧
      hexadecimalFrom reversed bytes =
        digits >>= fun read => .ok (pairDigits read.1, read.2) := by
  induction fuel generalizing bytes reversed with
  | zero =>
      rw [List.eq_nil_of_length_eq_zero (Nat.le_zero.mp enough)]
      exact ⟨_, .error (List.suffix_refl []), rfl⟩
  | succ fuel ih =>
      rw [digitsFrom, peek_bind within]
      cases bytes with
      | nil => exact ⟨_, .error (List.suffix_refl []), rfl⟩
      | cons byte rest =>
          have behind := List.suffix_cons byte rest
          have less := Nat.le_of_succ_le_succ enough
          simp only [List.head?_cons, hexadecimalFrom]
          rw [advance_one_bind within]
          split
          · exact ⟨_, .ok behind, rfl⟩
          · split
            · obtain ⟨digits, follows, same⟩ := ih reversed less (behind.trans within)
              exact ⟨digits, follows.of_suffix behind, same⟩
            · cases hexValue? byte with
              | none => exact ⟨_, .error behind, rfl⟩
              | some digit =>
                  obtain ⟨digits, follows, same⟩ :=
                    ih (digit :: reversed) less (behind.trans within)
                  exact ⟨digits, follows.of_suffix behind, same⟩

theorem bytesOfPairs_run (digits : List UInt8) (lexer : Lexer) :
    bytesOfPairs (if digits.length % 2 = 0 then digits else digits ++ [0]) lexer =
      (.ok (pairDigits digits), lexer) := by
  induction digits using pairDigits.induct with
  | case1 => rfl
  | case2 high =>
      have same : high <<< 4 ||| (0 : UInt8) = high <<< 4 := UInt8.or_zero
      show (Except.ok [high <<< 4 ||| (0 : UInt8)], lexer) = (.ok [high <<< 4], lexer)
      rw [same]
  | case3 high low rest ih =>
      have parity : (high :: low :: rest).length % 2 = rest.length % 2 := by
        simp only [List.length_cons]
        omega
      have split : (if (high :: low :: rest).length % 2 = 0 then high :: low :: rest
          else high :: low :: rest ++ [0]) =
            high :: low :: if rest.length % 2 = 0 then rest else rest ++ [0] := by
        rw [parity]
        split <;> rfl
      rw [split, bytesOfPairs, bind_run ih]
      rfl

theorem hexadecimal_follows {byte : UInt8} (within : byte :: bytes <:+ lexer.input.toList) :
    Follows lexer (byte :: bytes) (Lexer.hexadecimal (lexer.before (byte :: bytes)))
      (hexadecimalFrom [] bytes) := by
  have behind := List.suffix_cons byte bytes
  have inner := behind.trans within
  obtain ⟨digits, follows, same⟩ :=
    digitsFrom_follows [] (Nat.le_refl bytes.length) inner
  rw [Lexer.hexadecimal, advance_one_bind within, get_bind, remaining_before inner, same]
  refine (follows.bind ?_).of_suffix behind
  intro read rest _ suffix
  rw [bytesOfPairs_run]
  exact .ok (List.suffix_refl rest)

/-! ### Names -/

theorem byteAt_bind {raw : Array UInt8} {index : Nat} {byte : UInt8}
    (found : raw.toList[index]? = some byte) (next : UInt8 → Scan β) :
    (byteAt raw index >>= next) lexer = next byte lexer := by
  rw [Array.getElem?_toList] at found
  have run : byteAt raw index lexer = (.ok byte, lexer) := by
    simp only [byteAt, found]
    rfl
  exact bind_run run next

theorem decodeName_cons {byte : UInt8} {more : List UInt8}
    (plain : byte = 0x23 → more.length < 2) : decodeName (byte :: more) = byte :: decodeName more := by
  match more with
  | [] | [_] => rfl
  | high :: low :: rest =>
      have other : byte ≠ 0x23 := fun sign => absurd (plain sign) (by simp)
      simp [decodeName, other]

theorem nameFrom_run (raw : Array UInt8) {fuel index : Nat} (reversed : List UInt8)
    (enough : raw.toList.length ≤ index + fuel) :
    nameFrom raw fuel index reversed lexer =
      (.ok (reversed.reverse ++ decodeName (raw.toList.drop index)), lexer) := by
  induction fuel generalizing index reversed with
  | zero =>
      have nothing : raw.toList.drop index = [] := List.drop_eq_nil_of_le enough
      rw [nothing, decodeName, List.append_nil]
      rfl
  | succ fuel ih =>
      rw [nameFrom]
      split
      · next behind =>
          have nothing : raw.toList.drop index = [] := List.drop_eq_nil_of_le behind
          rw [nothing, decodeName, List.append_nil]
          rfl
      · next inside =>
          have inside : index < raw.toList.length := Nat.lt_of_not_le inside
          rw [byteAt_bind (List.getElem?_eq_getElem inside), List.drop_eq_getElem_cons inside]
          generalize raw.toList[index] = byte
          have onward := @ih (index + 1) (byte :: reversed) (by omega)
          rw [List.reverse_cons, List.append_assoc, List.singleton_append] at onward
          split
          · next code =>
              simp only [Bool.and_eq_true, decide_eq_true_eq] at code
              obtain ⟨rfl, room⟩ := code
              have room : index + 1 + 1 < raw.toList.length := room
              have first : index + 1 < raw.toList.length := Nat.lt_of_succ_lt room
              rw [byteAt_bind (List.getElem?_eq_getElem first),
                byteAt_bind (List.getElem?_eq_getElem room)]
              rw [List.drop_eq_getElem_cons first, List.drop_eq_getElem_cons room] at onward ⊢
              generalize raw.toList[index + 1] = high at onward ⊢
              generalize raw.toList[index + 1 + 1] = low at onward ⊢
              simp only [decodeName, if_true]
              cases hexValue? high with
              | none => exact onward
              | some highDigit =>
                  cases hexValue? low with
                  | none => exact onward
                  | some lowDigit =>
                      have coded := @ih (index + 3) ((highDigit <<< 4 ||| lowDigit) :: reversed)
                        (by omega)
                      rw [List.reverse_cons, List.append_assoc] at coded
                      exact coded
          · next plain =>
              rw [onward, decodeName_cons]
              rintro rfl
              simp only [decide_true, Bool.true_and, decide_eq_true_eq] at plain
              rw [List.length_drop, Array.length_toList]
              omega

theorem name_run {byte : UInt8} (within : byte :: bytes <:+ lexer.input.toList) :
    Lexer.name (lexer.before (byte :: bytes)) =
      (.ok (Content.name bytes).1, lexer.before (Content.name bytes).2) := by
  have inner := (List.suffix_cons byte bytes).trans within
  rw [Lexer.name, advance_one_bind within, bind_run (takeWhile_run isRegular inner)]
  refine (bind_run (nameFrom_run _ [] ?_) _).trans rfl
  exact Nat.le_of_eq (Nat.zero_add _).symm

theorem suffix_key (bytes : List UInt8) :
    Content.skipBlanks (Content.name bytes).2 <:+ 0x2F :: bytes :=
  (skipBlanks_suffix _).trans
    ((List.dropWhile_suffix isRegular).trans (List.suffix_cons 0x2F bytes))

theorem key_bind (within : 0x2F :: bytes <:+ lexer.input.toList) (next : String → Scan β) :
    (Lexer.name >>= fun key => Lexer.skipBlanks >>= fun _ => next key)
        (lexer.before (0x2F :: bytes)) =
      next (Content.name bytes).1
        (lexer.before (Content.skipBlanks (Content.name bytes).2)) := by
  have word : (Content.name bytes).2 <:+ 0x2F :: bytes :=
    (List.dropWhile_suffix isRegular).trans (List.suffix_cons 0x2F bytes)
  rw [bind_run (name_run within), bind_run (skipBlanks_run (word.trans within))]

/-! ### Numbers -/

/-- Behind a point there are no more points, only digits. -/
theorem passDigits_pointed {fuel : Nat} (enough : bytes.length ≤ fuel)
    (within : bytes <:+ lexer.input.toList) :
    passDigits fuel true (lexer.before bytes) =
      (.ok true, lexer.before (bytes.dropWhile isDigit)) := by
  induction fuel generalizing bytes with
  | zero =>
      rw [List.eq_nil_of_length_eq_zero (Nat.le_zero.mp enough)]
      rfl
  | succ fuel ih =>
      rw [passDigits, peek_bind within]
      cases bytes with
      | nil => rfl
      | cons byte rest =>
          have inner := (List.suffix_cons byte rest).trans within
          simp only [List.head?_cons, Bool.not_true, Bool.and_false, Bool.false_eq_true, if_false]
          split
          · next digit =>
              rw [advance_one_bind within, ih (Nat.le_of_succ_le_succ enough) inner,
                List.dropWhile_cons_of_pos digit]
          · next other =>
              rw [List.dropWhile_cons_of_neg other]
              rfl

theorem passDigits_run {fuel : Nat} (enough : bytes.length ≤ fuel)
    (within : bytes <:+ lexer.input.toList) :
    passDigits fuel false (lexer.before bytes) =
      match bytes.dropWhile isDigit with
      | 0x2E :: behind => (.ok true, lexer.before (behind.dropWhile isDigit))
      | rest => (.ok false, lexer.before rest) := by
  induction fuel generalizing bytes with
  | zero =>
      rw [List.eq_nil_of_length_eq_zero (Nat.le_zero.mp enough)]
      rfl
  | succ fuel ih =>
      rw [passDigits, peek_bind within]
      cases bytes with
      | nil => rfl
      | cons byte rest =>
          have inner := (List.suffix_cons byte rest).trans within
          have less := Nat.le_of_succ_le_succ enough
          simp only [List.head?_cons, Bool.not_false, Bool.and_true, decide_eq_true_eq]
          split
          · next point =>
              subst point
              rw [advance_one_bind within, passDigits_pointed less inner]
              rfl
          · next other =>
              split
              · next digit =>
                  rw [advance_one_bind within, ih less inner, List.dropWhile_cons_of_pos digit]
              · next last =>
                  rw [List.dropWhile_cons_of_neg last]
                  split
                  · next found => exact absurd (List.head_eq_of_cons_eq found) other
                  · rfl

variable {K : Type} [Scalar K]

section numerals

variable {signs whole : List UInt8} (signed : ∀ byte ∈ signs, isSign byte = true)
  (digits : ∀ byte ∈ whole, isDigit byte = true)

include signed digits

theorem dropWhile_signs (more : List UInt8) (ends : more.head?.all (!isSign ·)) :
    (signs ++ (whole ++ more)).dropWhile isSign = whole ++ more := by
  rw [List.dropWhile_append_of_pos signed]
  cases whole with
  | cons digit others =>
      have unsigned := isSign_of_isDigit digit (digits digit List.mem_cons_self)
      exact List.dropWhile_cons_of_neg (by simp [unsigned])
  | nil =>
      cases more with
      | nil => rfl
      | cons byte rest => exact List.dropWhile_cons_of_neg (by simpa using ends)

theorem numeralOperand_pointed (fraction : List UInt8) :
    numeralOperand (K := K) (signs ++ (whole ++ 0x2E :: fraction)) true =
      if (whole ++ fraction).isEmpty then .integer 0
      else realOperand ((signs ++ (whole ++ 0x2E :: fraction)).head? == some 0x2D)
        (whole ++ fraction) fraction.length := by
  have taken : (whole ++ 0x2E :: fraction).takeWhile isDigit = whole := by
    rw [List.takeWhile_append_of_pos digits, List.takeWhile_cons_of_neg (by decide),
      List.append_nil]
  have left : (whole ++ 0x2E :: fraction).drop (whole.length + 1) = fraction := by
    rw [List.drop_length_add_append]
    rfl
  simp only [numeralOperand, dropWhile_signs signed digits (0x2E :: fraction) rfl, taken,
    left, if_true]
  cases whole with
  | nil => cases fraction <;> simp
  | cons digit others => simp

theorem numeralOperand_whole :
    numeralOperand (K := K) (signs ++ whole) false =
      if whole.isEmpty then .integer 0
      else integerOperand ((signs ++ whole).head? == some 0x2D) whole := by
  have unsigned := dropWhile_signs signed digits [] rfl
  rw [List.append_nil] at unsigned
  simp only [numeralOperand, unsigned]
  cases whole with
  | nil => rfl
  | cons digit others =>
      have noPoint : digit :: others ≠ [0x2E] := by
        rintro ⟨⟩
        cases digits 0x2E List.mem_cons_self
      simp [noPoint]

end numerals

theorem number_run (within : bytes <:+ lexer.input.toList) :
    Lexer.number (lexer.before bytes) =
      (.ok (Content.number (K := K) bytes).1,
        lexer.before (Content.number (K := K) bytes).2) := by
  have room : bytes.length ≤ (lexer.before bytes).remaining :=
    Nat.le_of_eq (remaining_before within).symm
  have unsigned := (List.dropWhile_suffix (l := bytes) isSign).trans within
  have signed : ∀ byte ∈ bytes.takeWhile isSign, isSign byte = true :=
    fun _ => List.mem_takeWhile_imp
  have digits : ∀ byte ∈ (bytes.dropWhile isSign).takeWhile isDigit, isDigit byte = true :=
    fun _ => List.mem_takeWhile_imp
  have split : bytes.takeWhile isSign ++ bytes.dropWhile isSign = bytes :=
    List.takeWhile_append_dropWhile
  have splitWhole : (bytes.dropWhile isSign).takeWhile isDigit ++
      (bytes.dropWhile isSign).dropWhile isDigit = bytes.dropWhile isSign :=
    List.takeWhile_append_dropWhile
  have moved := passDigits_run (Nat.le_of_eq (remaining_before unsigned).symm) unsigned
  rw [Lexer.number, get_bind, get_bind, bind_run (passWhile_run isSign room within), get_bind]
  by_cases point : ∃ behind, (bytes.dropWhile isSign).dropWhile isDigit = 0x2E :: behind
  · obtain ⟨behind, point⟩ := point
    rw [point] at moved splitWhole
    have splitFraction : behind.takeWhile isDigit ++ behind.dropWhile isDigit = behind :=
      List.takeWhile_append_dropWhile
    have whole : bytes.takeWhile isSign ++ ((bytes.dropWhile isSign).takeWhile isDigit ++
        0x2E :: behind.takeWhile isDigit) ++ behind.dropWhile isDigit = bytes := by
      rw [List.append_assoc, List.append_assoc, List.cons_append, splitFraction, splitWhole, split]
    have taken := slice_before (whole.symm ▸ within) (behind.dropWhile isDigit)
    have head := congrArg List.head? whole
    rw [List.head?_append_of_ne_nil _ (by simp)] at head
    rw [whole] at taken
    rw [bind_run moved, get_bind, bind_run taken, number_point point]
    show (Except.ok _, _) = _
    rw [numeralOperand_pointed signed digits, head]
  · have noPoint : ((bytes.dropWhile isSign).dropWhile isDigit).head? ≠ some 0x2E := by
      intro first
      obtain ⟨behind, found⟩ := List.head?_eq_some_iff.mp first
      exact point ⟨behind, found⟩
    have whole : bytes.takeWhile isSign ++ (bytes.dropWhile isSign).takeWhile isDigit ++
        (bytes.dropWhile isSign).dropWhile isDigit = bytes := by
      rw [List.append_assoc, splitWhole, split]
    have taken := slice_before (whole.symm ▸ within)
      ((bytes.dropWhile isSign).dropWhile isDigit)
    rw [whole] at taken
    split at moved
    · next behind found => exact absurd ⟨behind, found⟩ point
    rw [bind_run moved, get_bind, bind_run taken, number_whole noPoint]
    show (Except.ok _, _) = _
    rw [numeralOperand_whole signed digits]
    cases some : (bytes.dropWhile isSign).takeWhile isDigit with
    | nil => rfl
    | cons digit others =>
        rw [some] at whole
        have head := congrArg List.head? whole
        rw [List.head?_append_of_ne_nil _ (by simp)] at head
        rw [head]

end Lexer

end PdfElements.Content
