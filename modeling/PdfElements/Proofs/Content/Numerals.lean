import PdfElements.Proofs.Content.RoundTrip

/-! Numbers in content streams. A numeral is a run of signs, and behind it digits with at most one
point among them. Where a number begins, the lexer reads the longest numeral that there is, and
what it stands for depends on whether it has digits, whether it has a point and on how large it
is. -/

set_option autoImplicit false

namespace PdfElements.Content

structure Numeral where
  signs : List UInt8
  /-- The digits before the point. -/
  whole : List UInt8
  /-- The digits behind the point, if there is one. -/
  fraction? : Option (List UInt8)
  isSign_signs : ∀ byte ∈ signs, isSign byte = true
  isDigit_whole : ∀ byte ∈ whole, isDigit byte = true
  isDigit_fraction : ∀ fraction ∈ fraction?, ∀ byte ∈ fraction, isDigit byte = true

namespace Numeral

def unsigned (numeral : Numeral) : List UInt8 :=
  numeral.whole ++ numeral.fraction?.elim [] (0x2E :: ·)

def text (numeral : Numeral) : List UInt8 := numeral.signs ++ numeral.unsigned

def digits (numeral : Numeral) : List UInt8 := numeral.whole ++ numeral.fraction?.getD []

def magnitude (numeral : Numeral) : Nat := digitsValue numeral.digits

def isNegative (numeral : Numeral) : Bool := numeral.text.head? == some 0x2D

section value

variable {K : Type} [Scalar K]

/-- The digits with so many of them behind the point, below zero if the first byte says so. -/
def value (numeral : Numeral) (places : Nat) : K :=
  let magnitude : K := Scalar.ofDecimal numeral.magnitude places
  if numeral.isNegative then -magnitude else magnitude

inductive StandsFor (numeral : Numeral) : Operand K → Prop where
  | zero : numeral.digits = [] → StandsFor numeral (.integer 0)
  | integer : numeral.digits ≠ [] → numeral.fraction? = none → numeral.magnitude < Nat.pow 2 63 →
      StandsFor numeral
        (.integer (if numeral.isNegative then -(numeral.magnitude : Int) else numeral.magnitude))
  | large : numeral.fraction? = none → Nat.pow 2 63 ≤ numeral.magnitude →
      StandsFor numeral (.real (numeral.value 0))
  | real {fraction : List UInt8} : numeral.digits ≠ [] → numeral.fraction? = some fraction →
      StandsFor numeral (.real (numeral.value fraction.length))

/-- Integers are far enough from the ends of the 64-bit range to be negated. -/
theorem StandsFor.within {numeral : Numeral} {number : Int}
    (stands : numeral.StandsFor (.integer number : Operand K)) :
    -(2 ^ 63 : Int) < number ∧ number < 2 ^ 63 := by
  cases stands with
  | zero => decide
  | integer _ _ small =>
      have power : Nat.pow 2 63 = 9223372036854775808 := rfl
      split <;> omega

end value

/-! ### The longest numeral -/

def longest (bytes : List UInt8) : Numeral :=
  let behind := (bytes.dropWhile isSign).dropWhile isDigit
  { signs := bytes.takeWhile isSign
    whole := (bytes.dropWhile isSign).takeWhile isDigit
    fraction? := if behind.head? = some 0x2E then some (behind.tail.takeWhile isDigit) else none
    isSign_signs := fun _ member => List.mem_takeWhile_imp member
    isDigit_whole := fun _ member => List.mem_takeWhile_imp member
    isDigit_fraction := by
      intro fraction found byte member
      split at found
      · cases found
        exact List.mem_takeWhile_imp member
      · cases found }

theorem fraction?_longest_point {bytes behind : List UInt8}
    (point : (bytes.dropWhile isSign).dropWhile isDigit = 0x2E :: behind) :
    (longest bytes).fraction? = some (behind.takeWhile isDigit) := by
  simp only [longest, point, List.head?_cons, List.tail_cons, if_true]

theorem fraction?_longest_whole {bytes : List UInt8}
    (whole : ((bytes.dropWhile isSign).dropWhile isDigit).head? ≠ some 0x2E) :
    (longest bytes).fraction? = none :=
  if_neg whole

/-- Behind signs and digits there is a point, or there is none. -/
private theorem point_or_whole (bytes : List UInt8) :
    (∃ behind, (bytes.dropWhile isSign).dropWhile isDigit = 0x2E :: behind) ∨
      ((bytes.dropWhile isSign).dropWhile isDigit).head? ≠ some 0x2E := by
  by_cases point : ((bytes.dropWhile isSign).dropWhile isDigit).head? = some 0x2E
  · exact .inl (List.head?_eq_some_iff.mp point)
  · exact .inr point

theorem isSign_eq_false_of_mem_unsigned {numeral : Numeral} {byte : UInt8}
    (member : byte ∈ numeral.unsigned) : isSign byte = false := by
  obtain ⟨signs, whole, fraction?, _, isDigit_whole, isDigit_fraction⟩ := numeral
  rcases List.mem_append.mp member with digit | behind
  · exact isSign_of_isDigit byte (isDigit_whole byte digit)
  · cases fraction? with
    | none => cases behind
    | some fraction =>
        rcases List.mem_cons.mp behind with rfl | digit
        · rfl
        · exact isSign_of_isDigit byte (isDigit_fraction fraction rfl byte digit)

theorem isNegative_longest (bytes : List UInt8) :
    (longest bytes).isNegative = (bytes.head? == some 0x2D) := by
  unfold isNegative text
  cases bytes with
  | nil => rfl
  | cons byte more =>
      by_cases sign : isSign byte = true
      · simp only [longest, List.takeWhile_cons_of_pos sign, List.cons_append, List.head?_cons]
      · have signs : (longest (byte :: more)).signs = [] := List.takeWhile_cons_of_neg sign
        rw [signs, List.nil_append, List.head?_cons, Bool.eq_iff_iff, beq_iff_eq, beq_iff_eq]
        constructor
        · intro first
          cases isSign_eq_false_of_mem_unsigned (List.mem_of_mem_head? first)
        · intro first
          cases first
          exact absurd rfl sign

private theorem unsigned_isPrefix_longest (numeral : Numeral) {bytes rest : List UInt8}
    (unsigned : bytes.dropWhile isSign = numeral.unsigned ++ rest) :
    numeral.unsigned <+: (longest bytes).unsigned := by
  obtain ⟨signs, whole, fraction?, _, isDigit_whole, isDigit_fraction⟩ := numeral
  unfold Numeral.unsigned at *
  simp only [longest, unsigned, List.append_assoc, List.takeWhile_append_of_pos isDigit_whole,
    List.dropWhile_append_of_pos isDigit_whole]
  cases fraction? with
  | none =>
      rw [Option.elim_none, List.append_nil]
      exact List.prefix_append _ _
  | some fraction =>
      have digits := isDigit_fraction fraction rfl
      have point : isDigit 0x2E = false := rfl
      simp [point, List.takeWhile_append_of_pos digits]

theorem text_isPrefix_longest {numeral : Numeral} {bytes : List UInt8}
    (begins : numeral.text <+: bytes) : numeral.text <+: (longest bytes).text := by
  obtain ⟨rest, rfl⟩ := begins
  have signs : (numeral.text ++ rest).takeWhile isSign =
      numeral.signs ++ (numeral.unsigned ++ rest).takeWhile isSign := by
    rw [text, List.append_assoc, List.takeWhile_append_of_pos numeral.isSign_signs]
  cases first : numeral.unsigned with
  | nil =>
      have begins : numeral.signs <+: (longest (numeral.text ++ rest)).signs :=
        ⟨_, signs.symm⟩
      rw [text, first, List.append_nil] at begins ⊢
      exact begins.trans (List.prefix_append _ _)
  | cons byte more =>
      have other : ¬ isSign byte = true := by
        rw [isSign_eq_false_of_mem_unsigned (first ▸ List.mem_cons_self)]
        exact Bool.false_ne_true
      have unsigned : (numeral.text ++ rest).dropWhile isSign = numeral.unsigned ++ rest := by
        rw [text, List.append_assoc, List.dropWhile_append_of_pos numeral.isSign_signs, first,
          List.cons_append, List.dropWhile_cons_of_neg other]
      have same : (longest (numeral.text ++ rest)).signs = numeral.signs := by
        rw [first, List.cons_append, List.takeWhile_cons_of_neg other, List.append_nil] at signs
        exact signs
      calc numeral.text
        _ = numeral.signs ++ numeral.unsigned := rfl
        _ <+: numeral.signs ++ (longest (numeral.text ++ rest)).unsigned :=
            (List.prefix_append_right_inj _).mpr (unsigned_isPrefix_longest numeral unsigned)
        _ = (longest (numeral.text ++ rest)).text := by
            rw [← same]
            rfl

variable {K : Type} [Scalar K]

theorem text_longest_append (bytes : List UInt8) :
    (longest bytes).text ++ (number (K := K) bytes).2 = bytes := by
  have signs : (longest bytes).signs ++ bytes.dropWhile isSign = bytes :=
    List.takeWhile_append_dropWhile
  have digits : (longest bytes).whole ++ (bytes.dropWhile isSign).dropWhile isDigit =
      bytes.dropWhile isSign := List.takeWhile_append_dropWhile
  rw [text, List.append_assoc]
  rcases point_or_whole bytes with ⟨behind, point⟩ | whole
  · have fraction : behind.takeWhile isDigit ++ behind.dropWhile isDigit = behind :=
      List.takeWhile_append_dropWhile
    rw [number_point point, unsigned, fraction?_longest_point point, List.append_assoc,
      Option.elim_some, List.cons_append, fraction, ← point, digits, signs]
  · rw [number_whole whole, unsigned, fraction?_longest_whole whole, List.append_assoc,
      Option.elim_none, List.nil_append, digits, signs]

theorem standsFor_longest (bytes : List UInt8) :
    (longest bytes).StandsFor (number (K := K) bytes).1 := by
  have sign := isNegative_longest bytes
  rcases point_or_whole bytes with ⟨behind, point⟩ | whole
  · have fraction := fraction?_longest_point point
    have digits : (longest bytes).digits =
        (bytes.dropWhile isSign).takeWhile isDigit ++ behind.takeWhile isDigit := by
      rw [Numeral.digits, fraction, Option.getD_some]
      rfl
    rw [number_point point]
    simp only [← digits, ← sign, List.isEmpty_iff]
    split
    · next nothing => exact .zero nothing
    · next something => exact .real something fraction
  · have fraction := fraction?_longest_whole whole
    have digits : (longest bytes).digits = (bytes.dropWhile isSign).takeWhile isDigit := by
      rw [Numeral.digits, fraction, Option.getD_none, List.append_nil]
      rfl
    rw [number_whole whole]
    simp only [← digits, ← sign, List.isEmpty_iff, integerOperand]
    split
    · next nothing => exact .zero nothing
    · next something =>
        split
        · next small => exact .integer something fraction small
        · next large => exact .large fraction (Nat.le_of_not_lt large)

end Numeral

variable {K : Type} [Scalar K]

theorem next_number {byte : UInt8} (begins : beginsNumber byte = true) (bytes : List UInt8)
    (size fuel : Nat) :
    next? (K := K) size (fuel + 1) (byte :: bytes) =
      .ok (some (.operand (number (byte :: bytes)).1, (number (K := K) (byte :: bytes)).2)) := by
  have solid := isSolid_of_isRegular byte (isRegular_of_beginsNumber byte begins)
  refine (next_operand (skipBlanks_solid solid bytes) (by simp [opensOperand, begins])).trans ?_
  exact bind_of_ok (operand_number begins) _

/-- Where a number begins, a lexer always reads one: the longest numeral that there is, as what it
stands for, and comes to stand behind it. It is negative if the first byte is a minus sign, and
integers fit 64 bits. -/
theorem longest_numeral_is_read (lexer : Lexer) {byte : UInt8} (begins : beginsNumber byte = true)
    (stands : lexer.left.head? = some byte) :
    ∃ (numeral : Numeral) (value : Operand K) (behind : Lexer),
      behind = { lexer with position := lexer.position + numeral.text.length } ∧
      numeral.text <+: lexer.left ∧
      (∀ other : Numeral, other.text <+: lexer.left → other.text <+: numeral.text) ∧
      numeral.StandsFor value ∧
      (∀ integer, value = .integer integer → -(2 ^ 63 : Int) < integer ∧ integer < 2 ^ 63) ∧
      lexer.number = (.ok value, behind) ∧
      (∀ fuel, lexer.operand (fuel + 1) = (.ok value, behind)) ∧
      (lexer.depth = 0 → lexer.failed = false →
        lexer.next K = (some (.ok (.operand value)), behind)) := by
  obtain ⟨bytes, left⟩ := List.head?_eq_some_iff.mp stands
  have within : byte :: bytes <:+ lexer.input.toList := left ▸ List.drop_suffix _ _
  have inside : lexer.position ≤ lexer.input.size := by
    have count := lexer.length_left
    rw [left, List.length_cons, Lexer.remaining] at count
    omega
  have here : lexer.before (byte :: bytes) = lexer := left ▸ Lexer.before_left inside
  have stands : (Numeral.longest lexer.left).StandsFor (number (K := K) lexer.left).1 :=
    Numeral.standsFor_longest lexer.left
  have split := Numeral.text_longest_append (K := K) lexer.left
  refine ⟨Numeral.longest lexer.left, (number lexer.left).1,
    lexer.before (number (K := K) lexer.left).2, ?_, ⟨_, split⟩, ?_, stands, ?_, ?_, ?_, ?_⟩
  · have count := congrArg List.length split
    rw [List.length_append, lexer.length_left, Lexer.remaining] at count
    have position : lexer.input.size - (number (K := K) lexer.left).2.length =
        lexer.position + (Numeral.longest lexer.left).text.length := by
      omega
    rw [Lexer.before, position]
  · intro other begins
    exact Numeral.text_isPrefix_longest begins
  · intro integer same
    rw [same] at stands
    exact stands.within
  · have read := Lexer.number_run (K := K) within
    rwa [here, ← left] at read
  · intro fuel
    have read := (Lexer.followsOperands (K := K) (fuel + 1)).operand within
    rw [here, operand_number begins, ← left] at read
    exact read.eq_before
  · intro top running
    have idle : lexer.Idle := ⟨top, inside⟩
    refine idle.next_of_token running ?_
    rw [left]
    exact next_number begins bytes _ _

/-- In `--5.25.1` the second point ends a numeral of two signs. -/
theorem second_point_ends_numeral :
    let bytes : List UInt8 := [0x2D, 0x2D, 0x35, 0x2E, 0x32, 0x35, 0x2E, 0x31]
    let lexer := Lexer.start bytes
    beginsNumber 0x2D = true ∧ lexer.left.head? = some 0x2D ∧ ∃ numeral : Numeral,
      numeral.text = [0x2D, 0x2D, 0x35, 0x2E, 0x32, 0x35] ∧
      (∀ other : Numeral, other.text <+: bytes → other.text <+: numeral.text) ∧
      numeral.StandsFor (.real (-(Scalar.ofDecimal 525 2)) : Operand Float) := by
  intro bytes lexer
  have begins : beginsNumber 0x2D = true := rfl
  have left : lexer.left = bytes := List.drop_zero
  have first : lexer.left.head? = some 0x2D := congrArg List.head? left
  obtain ⟨numeral, value, behind, moved, start, longest, stands, _, read, _⟩ :=
    longest_numeral_is_read (K := Float) lexer begins first
  have computed : (lexer.before bytes).number (K := Float) =
      (.ok (.real (-(Scalar.ofDecimal 525 2))), lexer.before [0x2E, 0x31]) :=
    Lexer.number_run (List.suffix_refl bytes)
  have here : lexer.before bytes = lexer := rfl
  rw [here, read] at computed
  obtain ⟨⟨rfl⟩, stopped⟩ := Prod.mk.inj computed
  have length : 0 + numeral.text.length = 6 :=
    congrArg Lexer.position (moved.symm.trans stopped)
  rw [Nat.zero_add] at length
  rw [left] at start longest
  have text : numeral.text = bytes.take 6 := length ▸ List.prefix_iff_eq_take.mp start
  exact ⟨begins, first, numeral, text, longest, stands⟩

end PdfElements.Content
