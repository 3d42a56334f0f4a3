import PdfElements.Page.Source
import PdfElements.Proofs.Content.Lexing

/-! Content that is divided among streams. The content of a page is its streams with a space between
them, and its tokens are those of the streams, one stream behind the other: a space ends every token
that a stream may end with. It does not end a comment. A comment that a stream leaves open takes
what stands in the streams behind it before the next line end. -/

set_option autoImplicit false

namespace PdfElements

namespace Content

def isLineEnd (byte : UInt8) : Bool := byte = 0x0A || byte = 0x0D

/-- Whether there is a percent sign that no line end follows. -/
def opensComment : List UInt8 → Bool
  | [] => false
  | byte :: rest => byte = 0x25 && !rest.any isLineEnd || opensComment rest

/-- The bytes behind a comment, if one is open before them: from the first line end on. -/
def resume (inComment : Bool) (bytes : List UInt8) : List UInt8 :=
  if inComment then bytes.dropWhile fun byte => !isLineEnd byte else bytes

/-! ### Behind white space and comments -/

section skipping

variable {inComment : Bool} {bytes start : List UInt8} {byte : UInt8}

theorem isBlank_of_isLineEnd : ∀ byte, isLineEnd byte = true → isBlank byte = true :=
  forall_byte (by decide +kernel)

theorem skip_comment (byte : UInt8) (rest : List UInt8) :
    skip true (byte :: rest) = skip (!isLineEnd byte) rest := by
  simp only [skip, if_true, isLineEnd, Bool.not_or, bne]
  rfl

theorem skip_percent (rest : List UInt8) : skip false (0x25 :: rest) = skip true rest := rfl

theorem skip_blank (blank : isBlank byte = true) (rest : List UInt8) :
    skip false (byte :: rest) = skip false rest := by
  simp [skip, blank]

theorem skip_solid (word : isBlank byte = false) (code : byte ≠ 0x25) (rest : List UInt8) :
    skip false (byte :: rest) = byte :: rest := by
  simp [skip, word, code]

theorem skip_resume (inComment : Bool) (bytes : List UInt8) :
    skip false (resume inComment bytes) = skip inComment bytes := by
  cases inComment with
  | false => rfl
  | true =>
      induction bytes with
      | nil => rfl
      | cons byte rest ih =>
          rw [skip_comment]
          cases ends : isLineEnd byte with
          | true => simp [resume, ends, skip_blank (isBlank_of_isLineEnd byte ends)]
          | false => simpa [resume, ends] using ih

theorem length_resume_le (inComment : Bool) (bytes : List UInt8) :
    (resume inComment bytes).length ≤ bytes.length := by
  unfold resume
  split
  · exact (List.dropWhile_suffix _).length_le
  · exact Nat.le_refl _

theorem opensComment_cons_of_ne (code : byte ≠ 0x25) (rest : List UInt8) :
    opensComment (byte :: rest) = opensComment rest := by
  simp [opensComment, code]

/-- Bytes that are all white space and comments leave a comment open, or one that was open. -/
theorem skip_append_of_nil (nothing : skip inComment bytes = []) (tail : List UInt8) :
    skip inComment (bytes ++ tail) =
      skip (opensComment bytes || inComment && !bytes.any isLineEnd) tail := by
  induction bytes generalizing inComment with
  | nil => simp [opensComment]
  | cons byte rest ih =>
      cases inComment with
      | true =>
          rw [skip_comment] at nothing
          rw [List.cons_append, skip_comment, ih nothing]
          congr 1
          cases ends : isLineEnd byte with
          | true =>
              have plain : byte ≠ 0x25 := by
                rintro rfl
                cases ends
              simp [opensComment_cons_of_ne plain, ends]
          | false => cases more : rest.any isLineEnd <;> simp [opensComment, ends, more]
      | false =>
          by_cases percent : byte = 0x25
          · subst percent
            rw [skip_percent] at nothing
            rw [List.cons_append, skip_percent, ih nothing]
            simp [opensComment, Bool.or_comm]
          · cases blank : isBlank byte with
            | false =>
                rw [skip_solid blank percent] at nothing
                cases nothing
            | true =>
                rw [skip_blank blank] at nothing
                rw [List.cons_append, skip_blank blank, ih nothing,
                  opensComment_cons_of_ne percent]
                simp

theorem any_isLineEnd_of_skip (found : skip true bytes = byte :: start) :
    bytes.any isLineEnd = true := by
  induction bytes with
  | nil => cases found
  | cons first rest ih =>
      rw [skip_comment] at found
      cases ends : isLineEnd first with
      | true => simp [ends]
      | false =>
          rw [ends] at found
          simp [ih found]

theorem opensComment_of_skip (found : skip inComment bytes = byte :: start) :
    opensComment bytes = opensComment start := by
  induction bytes generalizing inComment with
  | nil => cases found
  | cons first rest ih =>
      by_cases percent : first = 0x25
      · subst percent
        have comment : skip true rest = byte :: start := by
          cases inComment with
          | true => exact (skip_comment 0x25 rest).symm.trans found
          | false => exact found
        simp [opensComment, any_isLineEnd_of_skip comment, ih comment]
      · rw [opensComment_cons_of_ne percent]
        cases inComment with
        | true =>
            rw [skip_comment] at found
            exact ih found
        | false =>
            cases blank : isBlank first with
            | true =>
                rw [skip_blank blank] at found
                exact ih found
            | false =>
                rw [skip_solid blank percent] at found
                cases found
                rfl

end skipping

/-! ### Behind bytes without a token -/

variable {K : Type} [Scalar K]
variable {size fuel : Nat} {bytes tail : List UInt8}

theorem next_of_skipBlanks_eq {other : List UInt8} (same : skipBlanks bytes = skipBlanks other)
    (enough : bytes.length < fuel) {more : Nat} (enoughOther : other.length < more) :
    next? (K := K) size fuel bytes = next? size more other := by
  have both : next? (K := K) size (fuel + more) bytes = next? size (fuel + more) other := by
    cases fuel + more with
    | zero => rfl
    | succ fuel => simp only [next?, same]
  calc
    next? (K := K) size fuel bytes = next? size (fuel + more) bytes := next_congr enough (by omega)
    _ = next? size (fuel + more) other := both
    _ = next? size more other := next_congr (by omega) enoughOther

theorem opensComment_of_skipBlanks {start : List UInt8} {byte : UInt8}
    (found : skipBlanks bytes = byte :: start) : opensComment bytes = opensComment start :=
  opensComment_of_skip found

/-- Bytes without a token mean nothing to what follows, but for a comment that they leave open. -/
theorem next_append_of_none (found : next? (K := K) size fuel bytes = .ok none)
    (enough : bytes.length < fuel) (single : tail.head? ≠ some 0x3E) (longer : Nat) {more : Nat}
    (room : (bytes ++ tail).length < more) :
    next? (K := K) longer more (bytes ++ tail) =
      next? longer (tail.length + 1) (resume (opensComment bytes) tail) := by
  induction fuel generalizing bytes more with
  | zero => cases enough
  | succ fuel ih =>
      obtain ⟨more, rfl⟩ := Nat.exists_eq_succ_of_ne_zero (Nat.ne_zero_of_lt room)
      have within := (skipBlanks_suffix bytes).length_le
      rw [List.length_append] at room
      cases begins : skipBlanks bytes with
      | nil =>
          refine next_of_skipBlanks_eq ?_ (by rwa [List.length_append]) ?_
          · rw [skipBlanks, skip_append_of_nil begins, skipBlanks, skip_resume]
            simp
          · exact Nat.lt_succ_of_le (length_resume_le _ tail)
      | cons byte start =>
          have beginsSame := skipBlanks_append begins tail
          rw [begins, List.length_cons] at within
          rw [opensComment_of_skipBlanks begins]
          cases firstByte byte start with
          | @angles behind =>
              rw [List.length_cons] at within
              rw [next_angles begins] at found
              rw [List.cons_append] at beginsSame
              rw [next_angles beginsSame, opensComment_cons_of_ne (by decide)]
              exact ih found (by omega) (by rw [List.length_append]; omega)
          | angle other =>
              rw [next_angle begins other] at found
              have otherSame : (start ++ tail).head? ≠ some 0x3E := by
                cases start with
                | nil => exact single
                | cons second behind => exact other
              rw [next_angle beginsSame otherSame]
              exact ih found (by omega) (by rw [List.length_append]; omega)
          | operand opens =>
              rw [next_operand begins opens] at found
              obtain ⟨_, _, same⟩ := bind_ok found
              cases same
          | word regular word =>
              rw [next_word begins regular word] at found
              obtain ⟨_, _, same⟩ := bind_ok found
              cases same
          | stray other opens irregular =>
              rw [next_stray begins other opens irregular] at found
              rw [next_stray beginsSame other opens irregular]
              exact ih found (by omega) (by rw [List.length_append]; omega)

/-! ### Behind bytes without an error -/

theorem tokensFrom_of_next_eq {other : List UInt8} {more : Nat} (read : Array (Token K))
    (same : next? (K := K) size fuel bytes = next? size more other)
    (enough : bytes.length < fuel) (enoughOther : other.length < more) :
    tokensFrom size fuel read bytes = tokensFrom size more read other := by
  induction fuel generalizing read bytes other more with
  | zero => cases enough
  | succ fuel ih =>
      obtain ⟨more, rfl⟩ := Nat.exists_eq_succ_of_ne_zero (Nat.ne_zero_of_lt enoughOther)
      cases found : next? (K := K) size (fuel + 1) bytes with
      | error fault => rw [tokensFrom_error read found, tokensFrom_error read (same ▸ found)]
      | ok token? =>
          cases token? with
          | none => rw [tokensFrom_none read found, tokensFrom_none read (same ▸ found)]
          | some entry =>
              obtain ⟨token, rest⟩ := entry
              have foundSame := same.symm.trans found
              have shorter := (behind_next found).shorter
              have shorterOther := (behind_next foundSame).shorter
              rw [tokensFrom_token read found, tokensFrom_token read foundSame]
              exact ih _ (next_congr (by omega) (by omega)) (by omega) (by omega)

variable (K) in
/-- What is left of bytes behind their last token. -/
def trailingFrom (size : Nat) : (fuel : Nat) → List UInt8 → List UInt8
  | 0, bytes => bytes
  | fuel + 1, bytes =>
    match next? (K := K) size (fuel + 1) bytes with
    | .ok (some (_, rest)) => trailingFrom size fuel rest
    | _ => bytes

/-- Reading goes on behind bytes that are read without an error. -/
theorem tokensFrom_append (tail : List UInt8) (read : Array (Token K))
    (faultless : (tokensFrom size fuel read bytes).fault? = none) (enough : bytes.length < fuel)
    (ends : endsWord tail = true) (single : tail.head? ≠ some 0x3E) (longer : Nat) {more : Nat}
    (room : (bytes ++ tail).length < more) :
    tokensFrom longer more read (bytes ++ tail) =
      tokensFrom longer (tail.length + 1) (tokensFrom size fuel read bytes).tokens
        (resume (opensComment (trailingFrom K size fuel bytes)) tail) := by
  induction fuel generalizing read bytes more with
  | zero => cases enough
  | succ fuel ih =>
      cases found : next? (K := K) size (fuel + 1) bytes with
      | error fault =>
          rw [tokensFrom_error read found] at faultless
          cases faultless
      | ok token? =>
          cases token? with
          | none =>
              have onward := next_append_of_none found enough single longer room
              rw [tokensFrom_none read found, trailingFrom, found]
              exact tokensFrom_of_next_eq read onward room
                (Nat.lt_succ_of_le (length_resume_le _ tail))
          | some entry =>
              obtain ⟨token, rest⟩ := entry
              obtain ⟨more, rfl⟩ := Nat.exists_eq_succ_of_ne_zero (Nat.ne_zero_of_lt room)
              have shorter := (behind_next found).shorter
              rw [tokensFrom_token read found] at faultless ⊢
              rw [tokensFrom_token read (next_append found ends longer (more + 1) room),
                trailingFrom, found]
              rw [List.length_append] at room
              exact ih (read.push token) faultless (by omega) (by rw [List.length_append]; omega)

def Lexer.trailing (K : Type) [Scalar K] : (fuel : Nat) → Lexer → List UInt8
  | 0, lexer => lexer.left
  | fuel + 1, lexer =>
    match lexer.next K with
    | (some (.ok _), behind) => behind.trailing K fuel
    | _ => lexer.left

variable (K) in
/-- Whether a comment is open at the end of bytes: it begins behind their last token. -/
def leavesComment (bytes : List UInt8) : Bool :=
  opensComment ((Lexer.start bytes).trailing K (bytes.length + 1))

theorem Lexer.trailing_eq {lexer : Lexer} (idle : lexer.Idle) (running : lexer.failed = false)
    {fuel : Nat} (enough : lexer.left.length < fuel) :
    lexer.trailing K fuel = trailingFrom K lexer.input.size fuel lexer.left := by
  induction fuel generalizing lexer with
  | zero => cases enough
  | succ fuel ih =>
      have same : next? (K := K) lexer.input.size (fuel + 1) lexer.left =
          next? lexer.input.size (lexer.left.length + 1) lexer.left :=
        next_congr enough (Nat.lt_succ_self _)
      rw [trailing, trailingFrom, same]
      cases found : next? (K := K) lexer.input.size (lexer.left.length + 1) lexer.left with
      | error fault =>
          obtain ⟨rest, _, answer⟩ := idle.next_of_error running found
          rw [answer]
      | ok token? =>
          cases token? with
          | none => rw [idle.next_of_none running found]
          | some entry =>
              obtain ⟨token, rest⟩ := entry
              have shorter := (behind_next found).shorter
              have left : (lexer.before rest).left = rest := left_behind found
              have onward := ih (idle.before rest) running (by rw [left]; omega)
              rw [left] at onward
              rw [idle.next_of_token running found]
              exact onward

theorem leavesComment_eq (bytes : List UInt8) : leavesComment K bytes =
    opensComment (trailingFrom K bytes.length (bytes.length + 1) bytes) :=
  congrArg opensComment (Lexer.trailing_eq (Lexer.idle_start bytes) rfl (Nat.lt_succ_self _))

theorem tokensFrom_faultless (read : Array (Token K))
    (faultless : (tokens (K := K) bytes).fault? = none) :
    tokensFrom bytes.length (bytes.length + 1) read bytes =
      ⟨read ++ (tokens bytes).tokens, none⟩ := by
  rw [tokens_eq] at faultless ⊢
  rw [tokensFrom_read]
  exact congrArg _ faultless

theorem tokensFrom_eq_tokens {longer more : Nat} (read : Array (Token K))
    (faultless : (tokens (K := K) bytes).fault? = none) (enough : bytes.length < more) :
    tokensFrom longer more read bytes = ⟨read ++ (tokens bytes).tokens, none⟩ := by
  have alone := tokensFrom_faultless read faultless
  have onward := tokensFrom_append [] read (congrArg Lexed.fault? alone)
    (Nat.lt_succ_self _) rfl (by simp) longer (by rwa [List.append_nil])
  have nothing (inComment : Bool) : resume inComment [] = [] := by cases inComment <;> rfl
  have ended : next? (K := K) longer 1 [] = .ok none := rfl
  rwa [List.append_nil, nothing, List.length_nil, tokensFrom_none _ ended, alone] at onward

/-- Behind bytes without an error and a space, what follows is read, but for what an open comment
takes of it. -/
theorem tokensFrom_space {longer more : Nat} (read : Array (Token K)) {later : List UInt8}
    (faultless : (tokens (K := K) bytes).fault? = none)
    (room : (bytes ++ 0x20 :: later).length < more) :
    tokensFrom longer more read (bytes ++ 0x20 :: later) =
      tokensFrom longer (later.length + 1) (read ++ (tokens bytes).tokens)
        (resume (leavesComment K bytes) later) := by
  have alone := tokensFrom_faultless read faultless
  have onward := tokensFrom_append (0x20 :: later) read (congrArg Lexed.fault? alone)
    (Nat.lt_succ_self _) rfl (by simp) longer room
  have space (inComment : Bool) : skipBlanks (resume inComment (0x20 :: later)) =
      skipBlanks (resume inComment later) := by
    unfold skipBlanks
    rw [skip_resume, skip_resume]
    cases inComment <;> rfl
  have left := Nat.lt_succ_of_le (length_resume_le (leavesComment K bytes) later)
  have leftSpace := Nat.lt_succ_of_le (length_resume_le (leavesComment K bytes) (0x20 :: later))
  rw [onward, alone, ← leavesComment_eq]
  exact tokensFrom_of_next_eq _ (next_of_skipBlanks_eq (space _) leftSpace left) leftSpace left

variable (K) in
/-- The streams of a content as they are read one behind the other. A comment that is open before a
stream takes what stands in it before the first line end, and all of a stream without one. -/
def uncommented (inComment : Bool) : List (List UInt8) → List (List UInt8)
  | [] => []
  | content :: more =>
    let left := resume inComment content
    left :: uncommented (inComment && left.isEmpty || leavesComment K left) more

theorem uncommented_of_closed {contents : List (List UInt8)}
    (closed : ∀ content ∈ contents.dropLast, leavesComment K content = false) :
    uncommented K false contents = contents := by
  induction contents with
  | nil => rfl
  | cons content more ih =>
      cases more with
      | nil => rfl
      | cons second others =>
          rw [List.dropLast_cons_cons, List.forall_mem_cons] at closed
          have onward := ih closed.2
          rw [uncommented]
          simpa [resume, closed.1] using onward

theorem resume_space (inComment : Bool) (content later : List UInt8) :
    resume inComment (content ++ 0x20 :: later) =
      if inComment && (resume inComment content).isEmpty then resume true later
      else resume inComment content ++ 0x20 :: later := by
  cases inComment with
  | false => rfl
  | true =>
      simp only [resume, if_true, List.dropWhile_append, Bool.true_and]
      split <;> rfl

theorem tokensFrom_joined (inComment : Bool) (content : List UInt8) (more : List (List UInt8))
    (faultless : ∀ left ∈ uncommented K inComment (content :: more),
      (tokens (K := K) left).fault? = none)
    (longer : Nat) {fuel : Nat} (read : Array (Token K))
    (enough : (resume inComment (content ++ more.flatMap (0x20 :: ·))).length < fuel) :
    let lexed : Lexed K :=
      tokensFrom longer fuel read (resume inComment (content ++ more.flatMap (0x20 :: ·)))
    lexed.fault? = none ∧ lexed.tokens.toList = read.toList ++
      (uncommented K inComment (content :: more)).flatMap fun left =>
        (tokens left).tokens.toList := by
  -- Induction from the front: a stream is read, then what follows it, which the comment that the
  -- stream leaves open may take a part of.
  rw [uncommented, List.forall_mem_cons] at faultless
  rw [uncommented, List.flatMap_cons]
  induction more generalizing inComment content read fuel with
  | nil =>
      rw [List.flatMap_nil, List.append_nil] at enough ⊢
      rw [tokensFrom_eq_tokens read faultless.1 enough]
      simp [uncommented]
  | cons second others ih =>
      obtain ⟨first, later⟩ := faultless
      rw [List.flatMap_cons, List.cons_append, resume_space] at enough ⊢
      cases taken : inComment && (resume inComment content).isEmpty with
      | true =>
          simp only [taken, if_true, Bool.true_or] at enough later ⊢
          have nothing : resume inComment content = [] := by
            rw [Bool.and_eq_true, List.isEmpty_iff] at taken
            exact taken.2
          rw [uncommented, List.forall_mem_cons] at later
          have onward := ih true second later read enough
          rw [nothing]
          exact onward
      | false =>
          simp only [taken, Bool.false_eq_true, if_false, Bool.false_or] at enough later ⊢
          rw [uncommented, List.forall_mem_cons] at later
          have onward := ih (leavesComment K (resume inComment content)) second later
            (read ++ (tokens (resume inComment content)).tokens)
            (Nat.lt_succ_of_le (length_resume_le _ _))
          rw [tokensFrom_space read first enough]
          rw [Array.toList_append, List.append_assoc] at onward
          exact onward

theorem foldl_join {content : List UInt8} (some : content ≠ []) (more : List (List UInt8)) :
    more.foldl PageSource.join content = content ++ more.flatMap (0x20 :: ·) := by
  induction more generalizing content with
  | nil => simp
  | cons second others ih =>
      have joined : PageSource.join content second = content ++ 0x20 :: second := by
        simp [PageSource.join, some]
      rw [List.foldl_cons, joined, ih (by simp)]
      simp

theorem tokens_joined (contents : List (List UInt8))
    (faultless : ∀ left ∈ uncommented K false contents, (tokens (K := K) left).fault? = none) :
    let lexed : Lexed K := tokens (contents.foldl PageSource.join [])
    lexed.fault? = none ∧ lexed.tokens.toList =
      (uncommented K false contents).flatMap fun left => (tokens left).tokens.toList := by
  induction contents with
  | nil => exact ⟨rfl, rfl⟩
  | cons content more ih =>
      by_cases nothing : content = []
      · -- There is no space before the first stream with bytes in it.
        subst nothing
        rw [uncommented, List.forall_mem_cons] at faultless
        exact ih faultless.2
      · have first : PageSource.join [] content = content := rfl
        rw [List.foldl_cons, first, foldl_join nothing, tokens_eq]
        exact tokensFrom_joined false content more faultless _ #[] (Nat.lt_succ_self _)

end Content

namespace PageSource

open Content

variable {K : Type} [Scalar K]

theorem foldlM_join {store : ObjectStore} {items : List Object} {contents : List (List UInt8)}
    (decoded : items.mapM (part store) = .ok contents) (before : List UInt8) :
    items.foldlM (fun content item => do return join content (← part store item)) before =
      .ok (contents.foldl join before) := by
  induction items generalizing contents before with
  | nil =>
      cases decoded
      rfl
  | cons item others ih =>
      rw [List.mapM_cons] at decoded
      obtain ⟨content, first, decoded⟩ := bind_ok decoded
      obtain ⟨more, later, same⟩ := bind_ok decoded
      cases same
      rw [List.foldlM_cons, first]
      exact ih later _

/-- The tokens of a page with several streams are those of its streams, one stream behind the other,
each without what a comment that is open before it takes of it. If no stream but the last leaves a
comment open, nothing is taken of any stream. -/
theorem tokens_of_joined_streams {store : ObjectStore} {page : Dictionary} {items : List Object}
    {contents : List (List UInt8)} (listed : store.find? page "Contents" = some (.array items))
    (decoded : items.mapM (part store) = .ok contents)
    (faultless : ∀ left ∈ uncommented K false contents, (tokens (K := K) left).fault? = none) :
    ∃ joined, pageContent store page = .ok joined ∧ (tokens (K := K) joined).fault? = none ∧
      (tokens (K := K) joined).tokens.toList =
        (uncommented K false contents).flatMap (fun left => (tokens left).tokens.toList) ∧
      ((∀ content ∈ contents.dropLast, leavesComment K content = false) →
        uncommented K false contents = contents) := by
  obtain ⟨ended, read⟩ := tokens_joined contents faultless
  refine ⟨contents.foldl join [], ?_, ended, read, uncommented_of_closed⟩
  simp only [pageContent, listed]
  exact foldlM_join decoded []

/-- The streams `q %a`, `b`, `c` and `Q` on two lines, an empty one and `f`. -/
theorem comment_goes_on_to_third_stream :
    let contents : List (List UInt8) :=
      [[0x71, 0x20, 0x25, 0x61], [0x62], [0x63, 0x0A, 0x51], [], [0x66]]
    let store : ObjectStore := ⟨[], []⟩
    let page : Dictionary :=
      [(Text.encodeUtf8 "Contents", .array (contents.map (Object.stream [])))]
    store.find? page "Contents" = some (.array (contents.map (Object.stream []))) ∧
      (contents.map (Object.stream [])).mapM (part store) = .ok contents ∧
      (∀ left ∈ uncommented Float false contents, (tokens (K := Float) left).fault? = none) ∧
      ∃ joined, pageContent store page = .ok joined ∧
        (tokens (K := Float) joined).tokens.toList =
          [.operator "q", .operator "Q", .operator "f"] := by
  intro contents store page
  have listed : store.find? page "Contents" = some (.array (contents.map (Object.stream []))) := rfl
  have decoded : (contents.map (Object.stream [])).mapM (part store) = .ok contents := rfl
  have faultless : ∀ left ∈ uncommented Float false contents,
      (tokens (K := Float) left).fault? = none := by decide
  obtain ⟨joined, content, _, read, _⟩ := tokens_of_joined_streams listed decoded faultless
  exact ⟨listed, decoded, faultless, joined, content, read.trans rfl⟩

/-- A page with the streams `% c` and `0 0 1 1 re f` has no tokens, though its second stream has
six. -/
theorem open_comment_hides_next_stream :
    let contents : List (List UInt8) :=
      [[0x25, 0x20, 0x63],
        [0x30, 0x20, 0x30, 0x20, 0x31, 0x20, 0x31, 0x20, 0x72, 0x65, 0x20, 0x66]]
    let store : ObjectStore := ⟨[], []⟩
    let page : Dictionary :=
      [(Text.encodeUtf8 "Contents", .array (contents.map (Object.stream [])))]
    store.find? page "Contents" = some (.array (contents.map (Object.stream []))) ∧
      (contents.map (Object.stream [])).mapM (part store) = .ok contents ∧
      (∀ content ∈ contents, (tokens (K := Float) content).fault? = none) ∧
      ∃ joined, pageContent store page = .ok joined ∧
        (tokens (K := Float) joined).tokens.toList ≠
          contents.flatMap fun content => (tokens content).tokens.toList := by
  intro contents store page
  refine ⟨rfl, rfl, by decide, _, rfl, ?_⟩
  intro same
  have lengths := congrArg List.length same
  revert lengths
  decide

end PageSource

end PdfElements
