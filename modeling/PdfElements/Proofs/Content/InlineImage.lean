import PdfElements.Proofs.Content.Iteration

/-! Images written into the content. Their entries have a grammar of their own, which stops at the
word before the data. The data are any bytes without the word that ends them: whatever stands for
them comes back from the lexer, the white space at either end of them included. -/

set_option autoImplicit false

namespace PdfElements.Content

variable {K : Type} [Scalar K]

/-! ### Entries -/

/-- The bytes are read as the entries of an image and the word `ID`, which leaves the rest. -/
inductive ReadsImageEntries : List UInt8 → List (String × Operand K) → List UInt8 → Prop where
  | noEntries {bytes rest : List UInt8} : skipBlanks bytes = 0x49 :: 0x44 :: rest →
      endsWord rest = true → ReadsImageEntries bytes [] rest
  | entry {bytes start behind middle rest : List UInt8} {key : String} {value : Operand K}
      {entries : List (String × Operand K)} :
      skipBlanks bytes = 0x2F :: start → name start = (key, behind) →
      Reads nestingLimit (skipBlanks behind) (.operand value) middle →
      ReadsImageEntries middle entries rest →
      ReadsImageEntries bytes ((key, value) :: entries) rest

namespace ReadsImageEntries

variable {bytes rest tail : List UInt8} {entries : List (String × Operand K)}

/-- The entries stay the same when more follows, if that does not continue a word. -/
theorem append (reads : ReadsImageEntries bytes entries rest) (ends : endsWord tail = true) :
    ReadsImageEntries (bytes ++ tail) entries (rest ++ tail) := by
  induction reads with
  | noEntries found separate =>
      refine .noEntries (skipBlanks_append found tail) ?_
      rwa [endsWord_append _ ends]
  | @entry _ start behind _ _ _ _ _ found named first _ ih =>
      have read := first.append ends
      cases word : skipBlanks behind with
      | nil =>
          rw [word] at first
          exact absurd first.behind.shorter (Nat.not_lt_zero _)
      | cons byte value =>
          rw [word] at read
          exact .entry (skipBlanks_append found tail) (by rw [name_append start ends, named])
            (by rwa [skipBlanks_append word tail]) ih

/-- Entries begin with white space, a comment or a slash, if there is anything but `ID`. -/
theorem endsWord_or_eq (reads : ReadsImageEntries bytes entries rest) :
    endsWord bytes = true ∨ bytes = 0x49 :: 0x44 :: rest ∧ entries = [] := by
  cases bytes with
  | nil => exact .inl rfl
  | cons byte more =>
      cases regular : isRegular byte with
      | false => exact .inl (by simp [endsWord, regular])
      | true =>
          have solid : skipBlanks (byte :: more) = byte :: more := by
            have distinct : isBlank byte = false ∧ byte ≠ 0x25 := by
              refine ⟨?_, ?_⟩
              · simp only [isRegular, Bool.and_eq_true, Bool.not_eq_true'] at regular
                exact regular.1
              · rintro rfl
                cases regular
            simp [skipBlanks, skip, distinct]
          cases reads with
          | noEntries found => exact .inr ⟨solid.symm.trans found, rfl⟩
          | entry found =>
              cases solid.symm.trans found
              cases regular

/-- The lexer reads all entries that the grammar reads. -/
theorem imageEntriesFrom (reads : ReadsImageEntries bytes entries rest) (size : Nat) {fuel : Nat}
    (enough : bytes.length < fuel) (reversed : List (String × Operand K)) :
    Content.imageEntriesFrom size fuel reversed bytes =
      .ok (reversed.reverse ++ entries, dropBlank rest) := by
  induction reads generalizing fuel reversed with
  | noEntries found separate =>
      obtain ⟨fuel, rfl⟩ := Nat.exists_eq_succ_of_ne_zero (Nat.ne_zero_of_lt enough)
      simp only [Content.imageEntriesFrom, found, separate, if_true, List.append_nil]
      split <;> rfl
  | @entry bytes start behind middle _ key value _ found named first _ ih =>
      obtain ⟨fuel, rfl⟩ := Nat.exists_eq_succ_of_ne_zero (Nat.ne_zero_of_lt enough)
      have within : (skipBlanks behind).length < bytes.length := by
        simpa only [named] using (behind_key found).shorter
      have shorter := first.behind.shorter
      have room : (Phrase.operand value).Enough (operandFuel fuel) (skipBlanks behind) := by
        simp only [Phrase.Enough, operandFuel]
        omega
      have read := first.readFrom size room
      have less : middle.length < fuel := by omega
      have left := ih less ((key, value) :: reversed)
      simp only [Content.imageEntriesFrom, found, named]
      exact (bind_of_ok read _).trans (left.trans (by simp))

end ReadsImageEntries

/-! ### Data -/

/-- Within the data, the word `EI` stands at their start or behind white space, and no regular byte
follows it there. -/
def HoldsImageEnd (data : List UInt8) : Prop :=
  ∃ start < data.length,
    (data.drop start).take 2 = [0x45, 0x49] ∧
      (data.take start).getLast?.all isBlank = true ∧
      ((data.drop (start + 2)).head?.all fun byte => !isRegular byte) = true

instance (data : List UInt8) : Decidable (HoldsImageEnd data) :=
  inferInstanceAs (Decidable (∃ start < data.length, _))

theorem startsWord_reverse (front : List UInt8) :
    startsWord front.reverse = front.getLast?.all isBlank := by
  rw [← List.head?_reverse]
  cases front.reverse <;> rfl

theorem endsWord_eq_all (rest : List UInt8) :
    endsWord rest = rest.head?.all fun byte => !isRegular byte := by
  cases rest <;> rfl

theorem holdsImageEnd_append {front behind : List UInt8} (starts : startsWord front.reverse = true)
    (ends : endsWord behind = true) : HoldsImageEnd (front ++ 0x45 :: 0x49 :: behind) := by
  refine ⟨front.length, ?_, ?_, ?_, ?_⟩
  · simp
  · rw [List.drop_left]
    rfl
  · rw [List.take_left, ← startsWord_reverse]
    exact starts
  · rw [List.drop_length_add_append, ← endsWord_eq_all]
    exact ends

/-- Data without an end of their own are read up to the end behind them, with the data that are
already read in front. -/
theorem imageDataFrom_of_intact {front back rest : List UInt8} {gap : UInt8}
    (intact : ¬ HoldsImageEnd (front ++ back)) (blank : isBlank gap = true)
    (ends : endsWord rest = true) :
    imageDataFrom front.reverse (back ++ gap :: 0x45 :: 0x49 :: rest) =
      .ok (front ++ back, rest) := by
  induction back generalizing front with
  | nil =>
      have inside : imageDataFrom front.reverse (gap :: 0x45 :: 0x49 :: rest) =
          imageDataFrom (gap :: front.reverse) (0x45 :: 0x49 :: rest) := by
        refine imageDataFrom_cons ?_
        intro behind _ same
        cases same
      rw [List.nil_append, List.append_nil, inside]
      simp [imageDataFrom, startsWord, dropBlank, blank, ends]
  | cons byte back ih =>
      have whole : front ++ [byte] ++ back = front ++ byte :: back := by simp
      have inside : imageDataFrom front.reverse (byte :: (back ++ gap :: 0x45 :: 0x49 :: rest)) =
          imageDataFrom (byte :: front.reverse) (back ++ gap :: 0x45 :: 0x49 :: rest) := by
        refine imageDataFrom_cons ?_
        rintro behind rfl follows starts
        refine Bool.eq_false_iff.mpr fun word => intact ?_
        cases back with
        | nil =>
            cases follows
            cases blank
        | cons next back =>
            cases follows
            refine holdsImageEnd_append starts ?_
            cases back with
            | nil => rfl
            | cons => exact word
      rw [← whole] at intact
      have left := ih intact
      rw [List.reverse_append, whole] at left
      exact inside.trans left

/-! ### The whole image -/

theorem keyword_beginImage {rest : List UInt8} (ends : endsWord rest = true) :
    keyword (0x42 :: 0x49 :: rest) = ("BI", rest) := by
  have alone : keyword [0x42, 0x49] = ("BI", []) := by decide +kernel
  have read := keyword_append [0x42, 0x49] ends
  rwa [alone] at read

theorem inlineImage_of_intact {text data rest : List UInt8} {entries : List (String × Operand K)}
    {gap other : UInt8} (listed : ReadsImageEntries (text ++ [0x49, 0x44]) entries [])
    (intact : ¬ HoldsImageEnd data) (blank : isBlank gap = true) (blankOther : isBlank other = true)
    (ends : endsWord rest = true) (size : Nat) {fuel : Nat}
    (enough : (text ++ [0x49, 0x44] ++ gap :: data ++ other :: 0x45 :: 0x49 :: rest).length < fuel) :
    inlineImage size fuel (text ++ [0x49, 0x44] ++ gap :: data ++ other :: 0x45 :: 0x49 :: rest) =
      .ok (⟨entries, data⟩, rest) := by
  rw [List.append_assoc, List.cons_append] at enough ⊢
  have reads := listed.append (endsWord_of_isBlank blank (data ++ other :: 0x45 :: 0x49 :: rest))
  have dictionary := reads.imageEntriesFrom size enough []
  simp only [List.reverse_nil, List.nil_append, dropBlank, blank, if_true] at dictionary
  have ending : imageDataFrom [] (data ++ other :: 0x45 :: 0x49 :: rest) = .ok (data, rest) := by
    rw [← List.nil_append data] at intact
    exact imageDataFrom_of_intact intact blankOther ends
  exact (bind_of_ok dictionary _).trans (bind_of_ok ending _)

namespace Lexer

/-- An image in the content is read as it was written. Whatever entries the lexer can read, and
whatever data do not hold the end of an image, one byte of white space on either side of the data
sets them apart: the lexer answers these entries and exactly these data, and goes on with what
stands behind the image. Without entries, white space stands between `BI` and `ID`, which would be
one word. -/
theorem inline_image_is_recovered {lexer : Lexer} (idle : lexer.Idle)
    (running : lexer.failed = false) {text data rest : List UInt8}
    {entries : List (String × Operand K)} {gap other : UInt8}
    (apart : text ≠ []) (listed : ReadsImageEntries (text ++ [0x49, 0x44]) entries [])
    (intact : ¬ HoldsImageEnd data) (blank : isBlank gap = true) (blankOther : isBlank other = true)
    (ends : endsWord rest = true)
    (stands : lexer.left = [0x42, 0x49] ++ text ++ [0x49, 0x44] ++ gap :: data ++
      other :: [0x45, 0x49] ++ rest) :
    (lexer.next K).1 = some (.ok (.image ⟨entries, data⟩)) ∧
      (lexer.next K).2.left = rest ∧ (lexer.next K).2.Idle ∧
      (lexer.next K).2.input = lexer.input ∧ (lexer.next K).2.failed = false := by
  have separate : endsWord (text ++ [0x49, 0x44]) = true := by
    refine listed.endsWord_or_eq.resolve_right fun same => apart ?_
    exact List.append_left_eq_self.mp same.1
  obtain ⟨inner, same⟩ : ∃ inner,
      inner = text ++ [0x49, 0x44] ++ gap :: data ++ other :: 0x45 :: 0x49 :: rest := ⟨_, rfl⟩
  have left : lexer.left = 0x42 :: 0x49 :: inner := by simp [same, stands]
  have word : endsWord inner = true := by
    obtain ⟨first, more, rfl⟩ := List.exists_cons_of_ne_nil apart
    rw [same]
    exact separate
  have read : Content.keyword (0x42 :: 0x49 :: inner) = ("BI", inner) := keyword_beginImage word
  have enough : inner.length < lexer.left.length + 1 := by
    rw [left, List.length_cons, List.length_cons]
    omega
  have image : Content.inlineImage lexer.input.size (lexer.left.length + 1) inner =
      .ok (⟨entries, data⟩, rest) := by
    subst same
    exact inlineImage_of_intact listed intact blank blankOther ends lexer.input.size enough
  have found : next? (K := K) lexer.input.size (lexer.left.length + 1) lexer.left =
      .ok (some (.image ⟨entries, data⟩, rest)) := by
    have begins : Content.skipBlanks lexer.left = 0x42 :: 0x49 :: inner := by
      rw [left]
      rfl
    rw [next_word begins (by decide) (by decide), keywordToken_of_eq (by rw [read]), read]
    exact (congrArg (· >>= _) (bind_of_ok image _)).trans rfl
  rw [idle.next_of_token running found]
  exact ⟨rfl, left_behind found, idle.before rest, rfl, running⟩

/-- The data begin with `EI`, though as part of a longer word, and end with white space. -/
theorem image_with_end_in_data_is_recovered :
    let text : List UInt8 := [0x20, 0x2F, 0x57, 0x20, 0x31, 0x20]
    let data : List UInt8 := [0x45, 0x49, 0x78, 0x00, 0x20]
    let lexer := start ([0x42, 0x49] ++ text ++ [0x49, 0x44] ++ 0x0A :: data ++
      0x20 :: [0x45, 0x49] ++ [0x0A, 0x51])
    (lexer.next Float).1 = some (.ok (.image ⟨[("W", .integer 1)], data⟩)) ∧
      (lexer.next Float).2.left = [0x0A, 0x51] ∧ (lexer.next Float).2.Idle ∧
      (lexer.next Float).2.input = lexer.input ∧ (lexer.next Float).2.failed = false := by
  intro text data lexer
  have width : Reads (K := Float) nestingLimit [0x31, 0x20, 0x49, 0x44]
      (.operand (.integer 1)) [0x20, 0x49, 0x44] := .number (by decide) rfl
  have key : Content.name [0x57, 0x20, 0x31, 0x20, 0x49, 0x44] =
      ("W", [0x20, 0x31, 0x20, 0x49, 0x44]) := by
    decide +kernel
  have listed : ReadsImageEntries (K := Float) (text ++ [0x49, 0x44]) [("W", .integer 1)] [] :=
    .entry rfl key width (.noEntries rfl rfl)
  have apart : text ≠ [] := List.cons_ne_nil _ _
  have intact : ¬ HoldsImageEnd data := by decide
  have stands : lexer.left = [0x42, 0x49] ++ text ++ [0x49, 0x44] ++ 0x0A :: data ++
      0x20 :: [0x45, 0x49] ++ [0x0A, 0x51] := List.drop_zero
  have idle : lexer.Idle := idle_start _
  have running : lexer.failed = false := rfl
  have ends : endsWord [0x0A, 0x51] = true := rfl
  exact inline_image_is_recovered (K := Float) idle running apart listed intact rfl rfl ends stands

end Lexer

end PdfElements.Content
