import PdfElements.Proofs.Content.Following
import PdfElements.Proofs.Content.Fuel

/-! The operands, images and tokens that a lexer reads are those that there are to read in the bytes
that are left, and what it answers one call after the other are the tokens of its input. -/

set_option autoImplicit false

namespace PdfElements.Content

namespace Lexer

variable {lexer : Lexer} {bytes : List UInt8} {α β : Type} {K : Type} [Scalar K]

/-! ### Operands -/

/-- A scanner that only says what another one read stands where that one stands. -/
theorem Follows.map {scan : Scan α} {result : Except LexFault (α × List UInt8)}
    (follows : Follows lexer bytes (scan (lexer.before bytes)) result) (form : α → β) :
    Follows lexer bytes ((scan >>= fun value => pure (form value)) (lexer.before bytes))
      (result >>= fun read => .ok (form read.1, read.2)) :=
  follows.bind fun _ rest _ _ => .ok (List.suffix_refl rest)

def deeper (lexer : Lexer) : Lexer := { lexer with depth := lexer.depth + 1 }

theorem nested_follows {scan : Scan α} {result : Except LexFault (α × List UInt8)}
    (room : lexer.depth < nestingLimit)
    (follows : Follows lexer.deeper bytes (scan (lexer.deeper.before bytes)) result) :
    Follows lexer bytes (nested scan (lexer.before bytes)) result := by
  have run : nested scan (lexer.before bytes) =
      ((scan (lexer.deeper.before bytes)).1,
        { (scan (lexer.deeper.before bytes)).2 with
          depth := (scan (lexer.deeper.before bytes)).2.depth - 1 }) :=
    if_neg (Nat.not_le_of_lt room)
  rw [run]
  generalize scan (lexer.deeper.before bytes) = outcome at follows
  cases follows with
  | ok suffix => exact .ok suffix
  | error suffix => exact .error suffix

theorem nested_refused {scan : Scan α} (full : nestingLimit ≤ lexer.depth) :
    nested scan (lexer.before bytes) =
      (.error (.tooDeep (lexer.input.size - bytes.length)), lexer.before bytes) :=
  if_pos full

/-- With so much fuel, a lexer reads the operands that there are to read. -/
structure FollowsOperands (K : Type) [Scalar K] (fuel : Nat) : Prop where
  operand {lexer : Lexer} {bytes : List UInt8} : bytes <:+ lexer.input.toList →
    Follows lexer bytes (Lexer.operand (K := K) fuel (lexer.before bytes))
      (Content.operand lexer.input.size fuel (nestingLimit - lexer.depth) bytes)
  items {lexer : Lexer} {bytes : List UInt8} (reversed : List (Operand K)) :
    bytes <:+ lexer.input.toList →
      Follows lexer bytes (Lexer.itemsFrom fuel reversed (lexer.before bytes))
        (Content.itemsFrom lexer.input.size fuel (nestingLimit - lexer.depth) reversed bytes)
  entries {lexer : Lexer} {bytes : List UInt8} (reversed : List (String × Operand K)) :
    bytes <:+ lexer.input.toList →
      Follows lexer bytes (Lexer.entriesFrom fuel reversed (lexer.before bytes))
        (Content.entriesFrom lexer.input.size fuel (nestingLimit - lexer.depth) reversed bytes)

namespace FollowsOperands

variable {fuel : Nat}

private theorem operand_succ (follows : FollowsOperands K fuel)
    (within : bytes <:+ lexer.input.toList) :
    Follows lexer bytes (Lexer.operand (K := K) (fuel + 1) (lexer.before bytes))
      (Content.operand lexer.input.size (fuel + 1) (nestingLimit - lexer.depth) bytes) := by
  rw [Lexer.operand, peek_bind within]
  cases operandStart bytes with
  | nothing =>
      rw [operand_nil]
      exact .error (List.suffix_refl [])
  | literal =>
      rw [operand_literal]
      exact (literal_follows within).map _
  | @dictionary rest =>
      have behind := (List.suffix_cons 0x3C rest).trans (List.suffix_cons 0x3C (0x3C :: rest))
      simp only [List.head?_cons]
      rw [if_neg (by decide), if_pos trivial, peekAt_bind within, List.getElem?_cons_succ,
        List.getElem?_cons_zero, if_pos rfl]
      by_cases room : lexer.depth < nestingLimit
      · have levels : nestingLimit - lexer.depth = nestingLimit - lexer.deeper.depth + 1 := by
          simp only [deeper]
          omega
        have entries : Follows lexer.deeper rest _ _ := follows.entries [] (behind.trans within)
        have inside : 0x3C :: 0x3C :: rest <:+ lexer.deeper.input.toList := within
        rw [levels, operand_dictionary]
        refine nested_follows room ?_
        rw [advance_two_bind inside]
        exact (entries.map _).of_suffix behind
      · have levels : nestingLimit - lexer.depth = 0 := by omega
        rw [levels, operand_dictionary_refused, nested_refused (Nat.le_of_not_lt room)]
        exact .error (List.suffix_refl _)
  | @hexadecimal rest single =>
      rw [operand_hexadecimal single]
      simp only [List.head?_cons]
      rw [if_neg (by decide), if_pos trivial, peekAt_bind within]
      rw [List.head?_eq_getElem?] at single
      rw [List.getElem?_cons_succ, if_neg single]
      exact (hexadecimal_follows within).map _
  | @array rest =>
      have behind := List.suffix_cons 0x5B rest
      have inner := behind.trans within
      simp only [List.head?_cons]
      rw [if_neg (by decide), if_neg (by decide), if_pos trivial, advance_one_bind within]
      by_cases room : lexer.depth < nestingLimit
      · have levels : nestingLimit - lexer.depth = nestingLimit - lexer.deeper.depth + 1 := by
          simp only [deeper]
          omega
        have items : Follows lexer.deeper rest _ _ := follows.items [] inner
        rw [levels, operand_array]
        exact (nested_follows room (items.map _)).of_suffix behind
      · have levels : nestingLimit - lexer.depth = 0 := by omega
        rw [levels, operand_array_refused, nested_refused (Nat.le_of_not_lt room)]
        exact .error behind
  | @name rest =>
      rw [operand_name]
      simp only [List.head?_cons]
      rw [if_neg (by decide), if_neg (by decide), if_neg (by decide), if_pos trivial,
        bind_run (name_run within)]
      exact .ok ((List.dropWhile_suffix isRegular).trans (List.suffix_cons _ rest))
  | @number byte rest begins =>
      obtain ⟨literal, angle, array, name⟩ := ne_of_isRegular (isRegular_of_beginsNumber _ begins)
      rw [operand_number begins]
      simp only [List.head?_cons, literal, angle, array, name, begins, if_true, if_false]
      rw [number_run within]
      exact .ok (behind_number rest begins).suffix
  | @keyword byte rest regular word =>
      obtain ⟨literal, angle, array, name⟩ := ne_of_isRegular regular
      rw [operand_keyword regular word]
      simp only [List.head?_cons, literal, angle, array, name, word, regular, if_true, if_false,
        Bool.false_eq_true]
      rw [bind_run (keyword_run within)]
      exact .ok (behind_keyword rest regular).suffix
  | other separate irregular =>
      have word := Bool.eq_false_iff.mpr
        (mt (isRegular_of_beginsNumber _) (Bool.eq_false_iff.mp irregular))
      rw [operand_other separate irregular]
      obtain ⟨literal, angle, array, name⟩ := separate
      simp only [List.head?_cons, literal, angle, array, name, word, irregular, if_false,
        Bool.false_eq_true]
      exact .error (List.suffix_refl _)

private theorem items_succ (follows : FollowsOperands K fuel) (reversed : List (Operand K))
    (within : bytes <:+ lexer.input.toList) :
    Follows lexer bytes (Lexer.itemsFrom (fuel + 1) reversed (lexer.before bytes))
      (Content.itemsFrom lexer.input.size (fuel + 1) (nestingLimit - lexer.depth) reversed
        bytes) := by
  have left := skipBlanks_suffix bytes
  have inside := left.trans within
  refine Follows.of_suffix ?_ left
  rw [Lexer.itemsFrom, bind_run (skipBlanks_run within), peek_bind inside, Content.itemsFrom]
  cases found : Content.skipBlanks bytes with
  | nil => exact .error (List.suffix_refl [])
  | cons byte rest =>
      rw [found] at inside
      simp only [List.head?_cons]
      by_cases closing : byte = 0x5D
      · subst closing
        rw [if_pos rfl, advance_one_bind inside]
        exact .ok (List.suffix_cons _ _)
      · rw [if_neg closing]
        split
        · next same => cases same
        · next same => exact absurd (List.head_eq_of_cons_eq same) closing
        · exact (follows.operand inside).bind fun item rest _ suffix =>
            follows.items (item :: reversed) (suffix.trans inside)

private theorem entries_succ (follows : FollowsOperands K fuel)
    (reversed : List (String × Operand K)) (within : bytes <:+ lexer.input.toList) :
    Follows lexer bytes (Lexer.entriesFrom (fuel + 1) reversed (lexer.before bytes))
      (Content.entriesFrom lexer.input.size (fuel + 1) (nestingLimit - lexer.depth) reversed
        bytes) := by
  have left := skipBlanks_suffix bytes
  have inside := left.trans within
  refine Follows.of_suffix ?_ left
  rw [Lexer.entriesFrom, bind_run (skipBlanks_run within), peek_bind inside, Content.entriesFrom]
  cases found : Content.skipBlanks bytes with
  | nil => exact .error (List.suffix_refl [])
  | cons byte rest =>
      rw [found] at inside
      simp only [List.head?_cons]
      rw [peekAt_bind inside, List.getElem?_cons_succ, ← List.head?_eq_getElem?]
      by_cases closing : byte = 0x3E ∧ rest.head? = some 0x3E
      · obtain ⟨rfl, second⟩ := closing
        obtain ⟨behind, rfl⟩ := List.head?_eq_some_iff.mp second
        rw [if_pos (by simp), advance_two_bind inside]
        exact .ok ((List.suffix_cons _ behind).trans (List.suffix_cons _ _))
      · rw [if_neg (by simpa using closing)]
        by_cases slash : byte = 0x2F
        · subst slash
          have behind := suffix_key rest
          rw [if_pos rfl, key_bind inside]
          refine Follows.of_suffix ?_ behind
          exact (follows.operand (behind.trans inside)).bind fun value rest _ suffix =>
            follows.entries _ (suffix.trans (behind.trans inside))
        · rw [if_neg slash]
          split
          · next same => cases same
          · next same =>
              cases same
              exact absurd ⟨rfl, rfl⟩ closing
          · next same => exact absurd (List.head_eq_of_cons_eq same) slash
          · exact .error (List.suffix_refl _)

end FollowsOperands

theorem followsOperands (fuel : Nat) : FollowsOperands K fuel := by
  induction fuel with
  | zero =>
      have refl (bytes : List UInt8) := List.suffix_refl bytes
      exact ⟨fun _ => .error (refl _), fun _ _ => .error (refl _), fun _ _ => .error (refl _)⟩
  | succ fuel ih => exact ⟨ih.operand_succ, ih.items_succ, ih.entries_succ⟩

/-! ### Images -/

variable {fuel : Nat}

theorem imageEntriesFrom_follows (reversed : List (String × Operand K)) (top : lexer.depth = 0)
    (within : bytes <:+ lexer.input.toList) :
    Follows lexer bytes (Lexer.imageEntriesFrom fuel reversed (lexer.before bytes))
      (Content.imageEntriesFrom lexer.input.size fuel reversed bytes) := by
  induction fuel generalizing reversed bytes with
  | zero => exact .error (List.suffix_refl bytes)
  | succ fuel ih =>
      have left := skipBlanks_suffix bytes
      have inside := left.trans within
      refine Follows.of_suffix ?_ left
      rw [Lexer.imageEntriesFrom, bind_run (skipBlanks_run within), peek_bind inside,
        Content.imageEntriesFrom]
      cases found : Content.skipBlanks bytes with
      | nil => exact .error (List.suffix_refl [])
      | cons byte rest =>
          rw [found] at inside
          simp only [List.head?_cons]
          rw [peekAt_bind inside, peekAt_bind inside]
          by_cases marked : byte = 0x49 ∧ rest.head? = some 0x44
          · obtain ⟨rfl, second⟩ := marked
            obtain ⟨behind, rfl⟩ := List.head?_eq_some_iff.mp second
            have suffix := (List.suffix_cons 0x44 behind).trans
              (List.suffix_cons 0x49 (0x44 :: behind))
            have ending : (!behind[0]?.any isRegular) = endsWord behind := by
              cases behind <;> rfl
            simp only [List.getElem?_cons_succ, List.getElem?_cons_zero, ending, decide_true,
              Bool.true_and]
            split
            · rw [advance_two_bind inside, peek_bind (suffix.trans inside)]
              cases behind with
              | nil => exact .ok suffix
              | cons gap data =>
                  by_cases blank : isBlank gap = true
                  · simp only [blank, if_true]
                    rw [if_pos (by simpa using blank), advance_one_bind (suffix.trans inside)]
                    exact .ok ((List.suffix_cons gap data).trans suffix)
                  · simp only [blank, Bool.false_eq_true, if_false]
                    rw [if_neg (by simpa using blank)]
                    exact .ok suffix
            · exact .error (List.suffix_refl _)
          · rw [if_neg]
            · by_cases slash : byte = 0x2F
              · subst slash
                have behind := suffix_key rest
                have operands : FollowsOperands K (operandFuel fuel) := followsOperands _
                have value : Follows lexer _ _ _ := operands.operand (behind.trans inside)
                rw [top] at value
                rw [if_pos rfl, key_bind inside]
                refine Follows.of_suffix ?_ behind
                exact value.bind fun value rest _ suffix =>
                  ih _ (suffix.trans (behind.trans inside))
              · rw [if_neg slash]
                split
                · next same => cases same
                · next same => exact absurd (List.head_eq_of_cons_eq same) slash
                · next same =>
                    cases same
                    exact absurd ⟨rfl, rfl⟩ marked
                · exact .error (List.suffix_refl _)
            · simp only [List.getElem?_cons_succ, ← List.head?_eq_getElem?]
              rintro both
              simp only [Bool.and_eq_true, decide_eq_true_eq] at both
              exact marked both.1

theorem isBlankBefore_run {front : List UInt8} {last : UInt8}
    (within : front ++ last :: bytes <:+ lexer.input.toList) (left : List UInt8) :
    isBlankBefore (lexer.before bytes).position (lexer.before left) =
      (.ok (isBlank last), lexer.before left) := by
  have inner := (List.suffix_append front (last :: bytes)).trans within
  have here := position_before inner
  have there := position_before ((List.suffix_cons last bytes).trans inner)
  have before : (lexer.before bytes).position - 1 = (lexer.before (last :: bytes)).position := by
    rw [List.length_cons] at here
    omega
  have found : lexer.input.toList[(lexer.before bytes).position - 1]? = some last := by
    rw [before]
    exact getElem?_before inner 0
  rw [isBlankBefore, get_bind]
  exact byteAt_bind found _

theorem startsWordAt_run {front back : List UInt8} (within : front ++ back <:+ lexer.input.toList)
    (left : List UInt8) :
    startsWordAt (lexer.before (front ++ back)).position (lexer.before back).position
        (lexer.before left) = (.ok (startsWord front.reverse), lexer.before left) := by
  rcases List.eq_nil_or_concat' front with rfl | ⟨first, last, rfl⟩
  · rw [startsWordAt, List.nil_append, if_pos rfl]
    rfl
  · have start := position_before within
    have stop := position_before ((List.suffix_append _ back).trans within)
    rw [List.length_append, List.length_append, List.length_singleton] at start
    rw [List.append_assoc, List.singleton_append] at within
    rw [startsWordAt, if_neg (by omega), isBlankBefore_run within, List.reverse_append]
    rfl

theorem endsDataAt_run {front behind : List UInt8} {byte next : UInt8}
    (within : front ++ byte :: next :: behind <:+ lexer.input.toList) (left : List UInt8) :
    endsDataAt (lexer.before (front ++ byte :: next :: behind)).position
        (lexer.before (byte :: next :: behind)).position (lexer.before left) =
      (.ok (startsWord front.reverse && endsWord behind && byte = 0x45 && next = 0x49),
        lexer.before left) := by
  have inner := (List.suffix_append front (byte :: next :: behind)).trans within
  have first : lexer.input.toList[(lexer.before (byte :: next :: behind)).position]? = some byte :=
    getElem?_before inner 0
  have followed : (!lexer.input[(lexer.before (byte :: next :: behind)).position + 2]?.any
      isRegular) = endsWord behind := by
    have same := getElem?_before inner 2
    rw [Array.getElem?_toList] at same
    rw [same]
    cases behind <;> rfl
  rw [endsDataAt, get_bind, bind_run (startsWordAt_run within left)]
  refine (byteAt_bind first _).trans ((byteAt_bind (getElem?_before inner 1) _).trans ?_)
  show (Except.ok (_ && !lexer.input[(lexer.before (byte :: next :: behind)).position + 2]?.any
    isRegular && _ && _), _) = _
  rw [followed]

/-- One byte of white space at the end of the data is no part of them. -/
theorem dataStop_run {front back : List UInt8}
    (within : front ++ back <:+ lexer.input.toList) (left : List UInt8) :
    ∃ cut, (dropBlank front.reverse).reverse ++ cut = front ∧
      dataStop (lexer.before (front ++ back)).position (lexer.before back).position
        (lexer.before left) = (.ok (lexer.before (cut ++ back)).position, lexer.before left) := by
  have inner := (List.suffix_append front back).trans within
  rcases List.eq_nil_or_concat' front with rfl | ⟨first, last, rfl⟩
  · refine ⟨[], rfl, ?_⟩
    rw [dataStop, List.nil_append, if_neg (Nat.lt_irrefl _)]
    rfl
  · have start := position_before within
    have stop := position_before inner
    rw [List.length_append, List.length_append, List.length_singleton] at start
    rw [List.append_assoc, List.singleton_append] at within
    have gap := position_before ((List.suffix_append first (last :: back)).trans within)
    rw [List.length_cons] at gap
    have before : (lexer.before back).position - 1 = (lexer.before (last :: back)).position := by
      omega
    rw [dataStop, if_pos (by omega), bind_run (isBlankBefore_run within left)]
    cases blank : isBlank last with
    | true =>
        refine ⟨[last], by simp [dropBlank, blank], ?_⟩
        rw [if_pos rfl, before]
        rfl
    | false => exact ⟨[], by simp [dropBlank, blank], rfl⟩

theorem imageDataFrom_follows {front back : List UInt8}
    (within : front ++ back <:+ lexer.input.toList) {fuel : Nat} (enough : back.length ≤ fuel) :
    Follows lexer (front ++ back)
      (Lexer.imageDataFrom (lexer.before (front ++ back)).position fuel
        (lexer.before back).position (lexer.before (front ++ back)))
      (Content.imageDataFrom front.reverse back) := by
  have inner := (List.suffix_append front back).trans within
  have stop := position_before inner
  induction fuel generalizing front back with
  | zero =>
      rw [List.eq_nil_of_length_eq_zero (Nat.le_zero.mp enough)]
      exact .error (List.suffix_refl _)
  | succ fuel ih =>
      rw [Lexer.imageDataFrom, get_bind]
      have size : (lexer.before (front ++ back)).input.size =
          (lexer.before back).position + back.length := stop.symm
      rw [size]
      match back with
      | [] | [_] =>
          rw [if_pos (by simp)]
          exact .error (List.suffix_refl _)
      | byte :: next :: behind =>
          have onward := List.suffix_cons byte (next :: behind)
          have here := position_before inner
          have there := position_before (onward.trans inner)
          rw [if_neg (by simp), bind_run (endsDataAt_run within _)]
          by_cases ending : startsWord front.reverse && endsWord behind && byte = 0x45 &&
            next = 0x49
          · have suffix := (List.suffix_cons next behind).trans onward
            obtain ⟨cut, split, stop⟩ := dataStop_run within (front ++ byte :: next :: behind)
            have last := position_before (suffix.trans inner)
            rw [if_pos ending, bind_run stop]
            simp only [Bool.and_eq_true, decide_eq_true_eq] at ending
            obtain ⟨⟨⟨starts, ends⟩, rfl⟩, rfl⟩ := ending
            have read : Content.imageDataFrom front.reverse (0x45 :: 0x49 :: behind) =
                .ok ((dropBlank front.reverse).reverse, behind) := by
              simp [Content.imageDataFrom, starts, ends]
            have moved : { lexer.before (front ++ 0x45 :: 0x49 :: behind) with
                position := (lexer.before (0x45 :: 0x49 :: behind)).position + 2 } =
                  lexer.before behind := by
              have index : (lexer.before (0x45 :: 0x49 :: behind)).position + 2 =
                  (lexer.before behind).position := by
                simp only [List.length_cons] at here
                omega
              rw [index]
              rfl
            rw [← split, List.append_assoc] at within
            have sliced := slice_before within behind
            rw [← List.append_assoc, split] at sliced
            rw [read]
            refine Follows.of_suffix ?_ (suffix.trans (List.suffix_append front _))
            show Follows lexer behind ((slice _ _ >>= fun data => pure data.toList)
              { lexer.before _ with position := _ }) _
            rw [moved, bind_run sliced]
            exact .ok (List.suffix_refl _)
          · have left : (front ++ [byte]) ++ next :: behind = front ++ byte :: next :: behind := by
              simp
            rw [if_neg ending, imageDataFrom_cons]
            · have index : (lexer.before (byte :: next :: behind)).position + 1 =
                  (lexer.before (next :: behind)).position := by
                simp only [List.length_cons] at here there
                omega
              have step := @ih (front ++ [byte]) (next :: behind) (left ▸ within)
                (Nat.le_of_succ_le_succ enough) (onward.trans inner) there
              rw [left, List.reverse_append] at step
              rw [index]
              exact step
            · rintro more rfl same starts
              cases same
              simpa [starts] using ending

theorem inlineImage_follows (top : lexer.depth = 0) (within : bytes <:+ lexer.input.toList) :
    Follows lexer bytes (Lexer.inlineImage (K := K) fuel (lexer.before bytes))
      (Content.inlineImage lexer.input.size fuel bytes) := by
  refine (imageEntriesFrom_follows [] top within).bind ?_
  intro entries data _ suffix
  have inside := suffix.trans within
  rw [get_bind, get_bind, remaining_before inside]
  exact (@imageDataFrom_follows lexer [] data inside _ (Nat.le_refl _)).map _

/-! ### Tokens -/

theorem keywordToken_follows {byte : UInt8} (regular : isRegular byte = true)
    (top : lexer.depth = 0) (within : byte :: bytes <:+ lexer.input.toList) :
    Follows lexer (byte :: bytes) (Lexer.keywordToken (K := K) fuel (lexer.before (byte :: bytes)))
      (Content.keywordToken lexer.input.size fuel (byte :: bytes)) := by
  have suffix := (behind_keyword bytes regular).suffix
  refine Follows.of_suffix ?_ suffix
  rw [Lexer.keywordToken, bind_run (keyword_run within), Content.keywordToken]
  have refl := List.suffix_refl (Content.keyword (byte :: bytes)).2
  dsimp only
  split
  · exact .ok refl
  · split
    · exact .ok refl
    · split
      · exact .ok refl
      · split
        · exact (inlineImage_follows top (suffix.trans within)).map _
        · exact .ok refl

/-- What a token leaves, and where the lexer stands when there is none: at the end. -/
def located (result : Except LexFault (Option (Token K × List UInt8))) :
    Except LexFault (Option (Token K) × List UInt8) :=
  result.map fun token? => (token?.map Prod.fst, (token?.map Prod.snd).getD [])

omit [Scalar K] in
theorem located_bind (result : Except LexFault (α × List UInt8)) (form : α → Token K) :
    located (result >>= fun read => .ok (some (form read.1, read.2))) =
      result >>= fun read => .ok (some (form read.1), read.2) := by
  cases result <;> rfl

theorem not_isStray_of_opensOperand : ∀ byte, opensOperand byte = true → isStray byte = false :=
  forall_byte (by decide +kernel)

theorem not_isStray_of_isRegular : ∀ byte, isRegular byte = true → isStray byte = false :=
  forall_byte (by decide +kernel)

theorem nextToken_follows (top : lexer.depth = 0) (enough : bytes.length < fuel)
    (within : bytes <:+ lexer.input.toList) :
    Follows lexer bytes (Lexer.nextToken (K := K) fuel (lexer.before bytes))
      (located (next? lexer.input.size fuel bytes)) := by
  induction fuel generalizing bytes with
  | zero => cases enough
  | succ fuel ih =>
      have left := skipBlanks_suffix bytes
      have inside := left.trans within
      have less := left.length_le
      refine Follows.of_suffix ?_ left
      rw [Lexer.nextToken, bind_run (skipBlanks_run within), peek_bind inside]
      cases found : Content.skipBlanks bytes with
      | nil =>
          rw [next_nil found]
          exact .ok (List.suffix_refl [])
      | cons byte start =>
          rw [found] at inside less
          have behind := List.suffix_cons byte start
          have onward : Follows lexer start (Lexer.nextToken (K := K) fuel (lexer.before start))
              (located (next? lexer.input.size fuel start)) :=
            ih (by rw [List.length_cons] at less; omega) (behind.trans inside)
          simp only [List.head?_cons]
          cases firstByte byte start with
          | @angles rest =>
              have suffix := List.suffix_cons 0x3E rest
              rw [next_angles found, if_neg (by decide), peekAt_bind inside, if_pos (by simp),
                advance_two_bind inside]
              exact (ih (by simp only [List.length_cons] at less; omega)
                (suffix.trans (behind.trans inside))).of_suffix (suffix.trans behind)
          | angle single =>
              rw [List.head?_eq_getElem?] at single
              rw [next_angle found (by rwa [List.head?_eq_getElem?]), if_neg (by decide),
                peekAt_bind inside, List.getElem?_cons_succ, if_neg (by simpa using single),
                if_neg (by decide), if_neg (by decide), advance_one_bind inside]
              exact onward.of_suffix behind
          | operand opens =>
              have other : byte ≠ 0x3E := by
                rintro rfl
                cases opens
              have closes : ¬isStray byte = true := by
                simp [not_isStray_of_opensOperand byte opens]
              have operands : FollowsOperands K (operandFuel fuel) := followsOperands _
              have value : Follows lexer (byte :: start) _ _ := operands.operand inside
              rw [top] at value
              rw [next_operand found opens, if_neg closes, peekAt_bind inside,
                if_neg (by simp [other]), if_pos opens]
              rw [located_bind _ Token.operand]
              exact value.map _
          | word regular word =>
              have other : byte ≠ 0x3E := by
                rintro rfl
                cases regular
              have closes : ¬isStray byte = true := by
                simp [not_isStray_of_isRegular byte regular]
              have opens : ¬opensOperand byte = true := by
                simp [opensOperand, ne_of_isRegular regular, word]
              rw [next_word found regular word, if_neg closes, peekAt_bind inside,
                if_neg (by simp [other]), if_neg opens, if_pos regular]
              have split := located_bind
                (Content.keywordToken (K := K) lexer.input.size (fuel + 1) (byte :: start)) id
              refine Eq.mpr (congrArg (Follows lexer _ _) split) ?_
              exact (keywordToken_follows regular top inside).map some
          | stray other opens irregular =>
              rw [next_stray found other opens irregular]
              split
              · rw [advance_one_bind inside]
                exact onward.of_suffix behind
              · rw [peekAt_bind inside, if_neg (by simp [other]), if_neg (by simp [opens]),
                  if_neg (by simp [irregular]), advance_one_bind inside]
                exact onward.of_suffix behind

/-! ### Calls -/

/-- Between two calls, a lexer is in no container and has not left its input. -/
structure Idle (lexer : Lexer) : Prop where
  top : lexer.depth = 0
  inside : lexer.position ≤ lexer.input.size

theorem idle_start (input : List UInt8) : (start input).Idle := ⟨rfl, Nat.zero_le _⟩

namespace Idle

variable (idle : lexer.Idle)

include idle

theorem before (bytes : List UInt8) : (lexer.before bytes).Idle := ⟨idle.top, Nat.sub_le _ _⟩

theorem nextToken : Follows lexer lexer.left
    (Lexer.nextToken (K := K) (lexer.remaining + 1) lexer)
    (located (next? lexer.input.size (lexer.left.length + 1) lexer.left)) := by
  have follows := nextToken_follows (K := K) idle.top (Nat.lt_succ_self lexer.left.length)
    (List.drop_suffix _ _)
  rw [before_left idle.inside] at follows
  rwa [← length_left]

variable (running : lexer.failed = false)

include running

theorem next_of_error {fault : LexFault}
    (found : next? (K := K) lexer.input.size (lexer.left.length + 1) lexer.left = .error fault) :
    ∃ rest, rest <:+ lexer.left ∧
      lexer.next K = (some (.error fault), { lexer.before rest with failed := true }) := by
  have follows := idle.nextToken (K := K)
  rw [found] at follows
  generalize same : Lexer.nextToken (K := K) (lexer.remaining + 1) lexer = outcome at follows
  cases follows with
  | error suffix =>
      refine ⟨_, suffix, ?_⟩
      rw [next, running, same]
      rfl

theorem next_of_none
    (found : next? (K := K) lexer.input.size (lexer.left.length + 1) lexer.left = .ok none) :
    lexer.next K = (none, lexer.before []) := by
  have follows := idle.nextToken (K := K)
  rw [found] at follows
  generalize same : Lexer.nextToken (K := K) (lexer.remaining + 1) lexer = outcome at follows
  cases follows with
  | ok suffix =>
      rw [next, running, same]
      rfl

theorem next_of_token {token : Token K} {rest : List UInt8}
    (found : next? lexer.input.size (lexer.left.length + 1) lexer.left =
      .ok (some (token, rest))) :
    lexer.next K = (some (.ok token), lexer.before rest) := by
  have follows := idle.nextToken (K := K)
  rw [found] at follows
  generalize same : Lexer.nextToken (K := K) (lexer.remaining + 1) lexer = outcome at follows
  cases follows with
  | ok suffix =>
      rw [next, running, same]
      rfl

end Idle

theorem left_behind {token : Token K} {rest : List UInt8}
    (found : next? lexer.input.size fuel lexer.left = .ok (some (token, rest))) :
    (lexer.before rest).left = rest :=
  left_before ((behind_next found).suffix.trans (List.drop_suffix _ _))

/-- What a lexer answers are the tokens of the bytes that are left. -/
theorem lexedFrom_eq (idle : lexer.Idle) (running : lexer.failed = false) {fuel : Nat}
    (enough : lexer.left.length < fuel) (read : Array (Token K)) :
    lexer.lexedFrom fuel read = tokensFrom lexer.input.size fuel read lexer.left := by
  induction fuel generalizing lexer read with
  | zero => cases enough
  | succ fuel ih =>
      have same : next? (K := K) lexer.input.size (fuel + 1) lexer.left =
          next? lexer.input.size (lexer.left.length + 1) lexer.left :=
        next_congr enough (Nat.lt_succ_self _)
      cases found : next? (K := K) lexer.input.size (lexer.left.length + 1) lexer.left with
      | error fault =>
          obtain ⟨rest, _, answer⟩ := idle.next_of_error running found
          rw [tokensFrom_error read (same.trans found), lexedFrom, answer]
      | ok token? =>
          cases token? with
          | none =>
              rw [tokensFrom_none read (same.trans found), lexedFrom,
                idle.next_of_none running found]
          | some entry =>
              obtain ⟨token, rest⟩ := entry
              have shorter := (behind_next found).shorter
              have left : (lexer.before rest).left = rest := left_behind found
              have onward := ih (idle.before rest) running (by rw [left]; omega) (read.push token)
              rw [left] at onward
              rw [tokensFrom_token read (same.trans found), lexedFrom,
                idle.next_of_token running found]
              exact onward

end Lexer

variable {K : Type} [Scalar K]

theorem tokens_eq (bytes : List UInt8) :
    tokens (K := K) bytes = tokensFrom bytes.length (bytes.length + 1) #[] bytes :=
  Lexer.lexedFrom_eq (Lexer.idle_start bytes) rfl (Nat.lt_succ_self _) #[]

/-- The tokens before white space do not depend on what follows it. -/
theorem tokens_prefix (earlier later : List UInt8) {separator : UInt8}
    (blank : isBlank separator = true) :
    (tokens (K := K) earlier).tokens.toList <+:
      (tokens (earlier ++ separator :: later)).tokens.toList := by
  rw [tokens_eq, tokens_eq]
  exact tokensFrom_prefix #[] earlier (endsWord_of_isBlank blank later) _ _ (Nat.lt_succ_self _)

end PdfElements.Content
