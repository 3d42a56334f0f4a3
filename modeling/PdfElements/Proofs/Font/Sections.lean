import PdfElements.Font.CMap
import PdfElements.Proofs.Font.Decoding
import PdfElements.Proofs.Font.Latest

/-! What maps from codes to text hold. Operators close sections, and sections assign texts to codes
in pairs and triples. The text of a code is that of the last assignment that covers it, and what
stands behind a place that cannot be split into tokens does not count. -/

set_option autoImplicit false

namespace PdfElements

namespace CMap

variable {K : Type}

/-! ### Sections -/

/-- Operands and the operator behind them. -/
structure Section (K : Type) where
  operands : List (Operand K)
  operator : String

/-- The sections that tokens close, if some operands of the first one are read already. -/
def sectionsFrom (opened : List (Operand K)) : List (Token K) → List (Section K)
  | [] => []
  | .operand operand :: rest => sectionsFrom (opened ++ [operand]) rest
  | .operator name :: rest => ⟨opened, name⟩ :: sectionsFrom [] rest
  | .image _ :: rest => sectionsFrom [] rest

/-- The sections that are closed before the end of a text, or before its first lexical error. -/
def sections (bytes : List UInt8) : List (Section Float) :=
  sectionsFrom [] (Content.tokens bytes).tokens.toList

/-- Successive pairs; a last item without a partner is left out. -/
def pairs {Item : Type} : List Item → List (Item × Item)
  | first :: second :: rest => (first, second) :: pairs rest
  | _ => []

/-- Successive triples; last items that are too few for one are left out. -/
def triples {Item : Type} : List Item → List (Item × Item × Item)
  | first :: second :: third :: rest => (first, second, third) :: triples rest
  | _ => []

/-- What a section says of one code, or of the codes of a range. -/
inductive Assignment (K : Type) where
  | single (source target : Operand K)
  | range (first last target : Operand K)

namespace Section

def assignments (part : Section K) : List (Assignment K) :=
  if part.operator = "endbfchar" then
    (pairs part.operands).map fun (source, target) => .single source target
  else if part.operator = "endbfrange" then
    (triples part.operands).map fun (first, last, target) => .range first last target
  else []

/-- The lengths of codes that a section of code space ranges declares. -/
def lengths (part : Section K) : List Nat :=
  if part.operator = "endcodespacerange" then
    (pairs part.operands).filterMap fun (low, _) => low.string?.map List.length
  else []

end Section

/-- The assignments of a text in their order, up to its first lexical error. -/
def assignments (bytes : List UInt8) : List (Assignment Float) :=
  (sections bytes).flatMap Section.assignments

inductive Covers : Assignment K → Nat → String → Prop where
  | string {source target : Operand K} {code units : List UInt8} :
      source.string? = some code → target.string? = some units →
      Covers (.single source target) (codeValue code) (bytesText units)
  | glyph {source : Operand K} {code : List UInt8} {name text : String} :
      source.string? = some code → GlyphName.text? name = some text →
      Covers (.single source (.name name)) (codeValue code) text
  | listed {first last target : Operand K} {low high units : List UInt8}
      {targets : List (Operand K)} {distance : Nat} :
      first.string? = some low → last.string? = some high →
      targets[distance]? = some target → target.string? = some units →
      codeValue low + distance ≤ codeValue high →
      Covers (.range first last (.array targets)) (codeValue low + distance) (bytesText units)
  | run {first last target : Operand K} {low high bytes : List UInt8} {front : List UInt16}
      {unit : UInt16} {distance : Nat} :
      first.string? = some low → last.string? = some high → target.string? = some bytes →
      Text.bigEndianUnits bytes = front ++ [unit] →
      codeValue low + distance ≤ codeValue high → distance ≤ 0xFFFF →
      Covers (.range first last target) (codeValue low + distance)
        (Text.decodeUtf16 (front ++ [unit + UInt16.ofNat distance]))
  | blank {first last target : Operand K} {low high : List UInt8} {distance : Nat} :
      first.string? = some low → last.string? = some high → target.string? = some [] →
      codeValue low + distance ≤ codeValue high → distance ≤ 0xFFFF →
      Covers (.range first last target) (codeValue low + distance) ""

/-- The text of a code is the one that the last assignment to cover it gives. -/
def LastText (given : List (Assignment K)) (code : Nat) (text : String) : Prop :=
  GivenLast (fun assignment => Covers assignment code) given text

/-! ### Assignments as entries -/

def Assignment.made? : Assignment K → Option CMapEntry
  | .single source target => do
    let code ← source.string?
    let text ← targetText? target
    return .single (codeValue code) text
  | .range first last target => do
    let low ← first.string?
    let high ← last.string?
    if codeValue high < codeValue low then none
    else rangeEntry? (codeValue low) (codeValue high) target

theorem shiftLast_append (front : List UInt16) (unit : UInt16) (distance : Nat) :
    CMapEntry.shiftLast (front ++ [unit]) distance =
      front ++ [unit + UInt16.ofNat distance] := by
  simp [CMapEntry.shiftLast]

def Assignment.text? (assignment : Assignment K) (code : Nat) : Option String :=
  assignment.made?.bind fun entry => entry.text? code

theorem text_single_iff {source target : Operand K} {code : Nat} {text : String} :
    (Assignment.single source target).text? code = some text ↔
      ∃ bytes, source.string? = some bytes ∧ codeValue bytes = code ∧
        targetText? target = some text := by
  simp only [Assignment.text?, Assignment.made?, Option.bind_eq_bind, Option.bind_assoc,
    Option.bind_eq_some_iff, CMapEntry.text?, pure, Option.bind_some]
  constructor
  · rintro ⟨bytes, source, own, target, given⟩
    split at given
    · next same =>
        cases given
        exact ⟨bytes, source, same.symm, target⟩
    · cases given
  · rintro ⟨bytes, source, rfl, target⟩
    exact ⟨bytes, source, text, target, if_pos rfl⟩

theorem targetText_iff {target : Operand K} {text : String} :
    targetText? target = some text ↔
      (∃ name, target = .name name ∧ GlyphName.text? name = some text) ∨
        ∃ units, target.string? = some units ∧ bytesText units = text := by
  cases target <;> simp [targetText?, Operand.string?]

/-- The text of a code within a range, by how far it is behind the first one. -/
theorem text_rangeEntry_iff {target : Operand K} {low high distance : Nat} {text : String}
    (within : low + distance ≤ high) :
    (( rangeEntry? low high target).bind fun entry => entry.text? (low + distance)) = some text ↔
      (∃ targets item units, target = .array targets ∧ targets[distance]? = some item ∧
        item.string? = some units ∧ bytesText units = text) ∨
      ∃ bytes, target.string? = some bytes ∧ distance ≤ 0xFFFF ∧
        Text.decodeUtf16 (CMapEntry.shiftLast (Text.bigEndianUnits bytes) distance) = text := by
  have near : low + distance ≤ low + (runLimit - 1) ↔ distance ≤ 0xFFFF := by
    rw [Nat.add_le_add_iff_left]
    rfl
  cases target with
  | array targets =>
      simp [Operand.string?, rangeEntry?, CMapEntry.text?, within, Option.join_eq_some_iff]
  | _ => simp [Operand.string?, rangeEntry?, CMapEntry.text?, within, near]

theorem within_of_text_rangeEntry {target : Operand K} {low high code : Nat} {text : String}
    (given : (( rangeEntry? low high target).bind fun entry => entry.text? code) = some text) :
    low ≤ code ∧ code ≤ high := by
  by_contra outside
  cases target with
  | array targets =>
      simp [CMapEntry.text?, rangeEntry?] at given
      omega
  | literal | hexadecimal =>
      simp [CMapEntry.text?, rangeEntry?, Operand.string?] at given
      omega
  | _ => cases given

theorem text_range_iff {first last target : Operand K} {code : Nat} {text : String} :
    (Assignment.range first last target).text? code = some text ↔
      ∃ low high distance, first.string? = some low ∧ last.string? = some high ∧
        codeValue low + distance = code ∧ code ≤ codeValue high ∧
        (( rangeEntry? (codeValue low) (codeValue high) target).bind fun entry =>
          entry.text? code) = some text := by
  simp only [Assignment.text?, Assignment.made?, Option.bind_eq_bind, Option.bind_assoc]
  constructor
  · intro given
    obtain ⟨low, first, given⟩ := Option.bind_eq_some_iff.mp given
    obtain ⟨high, last, given⟩ := Option.bind_eq_some_iff.mp given
    split at given
    · cases given
    · obtain ⟨above, below⟩ := within_of_text_rangeEntry given
      exact ⟨low, high, code - codeValue low, first, last, Nat.add_sub_cancel' above, below, given⟩
  · rintro ⟨low, high, distance, first, last, rfl, within, given⟩
    have ordered : ¬ codeValue high < codeValue low := by omega
    rw [first, last, Option.bind_some, Option.bind_some, if_neg ordered]
    exact given

theorem eq_nil_of_bigEndianUnits {bytes : List UInt8} (none : Text.bigEndianUnits bytes = []) :
    bytes = [] := by
  match bytes with
  | [] => rfl
  | [_] => cases none
  | _ :: _ :: _ => cases none

/-- An assignment covers the codes that its entry has a text for. -/
theorem text_eq_some_iff_covers (assignment : Assignment K) (code : Nat) (text : String) :
    assignment.text? code = some text ↔ Covers assignment code text := by
  cases assignment with
  | single source target =>
      rw [text_single_iff]
      constructor
      · rintro ⟨bytes, source, rfl, given⟩
        obtain ⟨name, rfl, named⟩ | ⟨units, string, rfl⟩ := targetText_iff.mp given
        · exact .glyph source named
        · exact .string source string
      · intro covers
        cases covers with
        | string source string =>
            exact ⟨_, source, rfl, targetText_iff.mpr (.inr ⟨_, string, rfl⟩)⟩
        | glyph source named => exact ⟨_, source, rfl, targetText_iff.mpr (.inl ⟨_, rfl, named⟩)⟩
  | range first last target =>
      rw [text_range_iff]
      constructor
      · rintro ⟨low, high, distance, first, last, rfl, within, given⟩
        obtain ⟨targets, item, units, rfl, member, string, rfl⟩ | ⟨bytes, string, near, rfl⟩ :=
          (text_rangeEntry_iff within).mp given
        · exact .listed first last member string within
        · obtain units | ⟨front, unit, units⟩ :=
            List.eq_nil_or_concat' (Text.bigEndianUnits bytes)
          · obtain rfl := eq_nil_of_bigEndianUnits units
            exact .blank first last string within near
          · rw [units, shiftLast_append]
            exact .run first last string units within near
      · intro covers
        cases covers with
        | listed first last member string within =>
            exact ⟨_, _, _, first, last, rfl, within,
              (text_rangeEntry_iff within).mpr (.inl ⟨_, _, _, rfl, member, string, rfl⟩)⟩
        | run first last string units within near =>
            refine ⟨_, _, _, first, last, rfl, within,
              (text_rangeEntry_iff within).mpr (.inr ⟨_, string, near, ?_⟩)⟩
            rw [units, shiftLast_append]
        | blank first last string within near =>
            exact ⟨_, _, _, first, last, rfl, within,
              (text_rangeEntry_iff within).mpr (.inr ⟨_, string, near, rfl⟩)⟩

theorem collect_pairs {Item Found : Type} {collect : List Found → List Item → List Found}
    {found? : Item × Item → Option Found}
    (pair : ∀ reversed first second rest, collect reversed (first :: second :: rest) =
      collect ((found? (first, second)).toList ++ reversed) rest)
    (short : ∀ reversed items, pairs items = [] → collect reversed items = reversed)
    (reversed : List Found) (items : List Item) :
    collect reversed items = ((pairs items).filterMap found?).reverse ++ reversed := by
  induction items using pairs.induct generalizing reversed with
  | case1 first second rest ih =>
      rw [pair, ih, pairs, List.filterMap_cons]
      cases found? (first, second) <;> simp
  | case2 items few =>
      have none : pairs items = [] := pairs.eq_2 items few
      rw [short reversed items none, none]
      rfl

theorem charEntries_eq (reversed : List CMapEntry) (operands : List (Operand K)) :
    charEntries reversed operands =
      ((pairs operands).filterMap fun (source, target) =>
        (Assignment.single source target).made?).reverse ++ reversed := by
  apply collect_pairs
  · intro reversed source target rest
    rw [charEntries]
    simp only [Assignment.made?]
    cases source.string? with
    | none => rfl
    | some code => cases targetText? target <;> rfl
  · intro reversed operands none
    match operands with
    | [] => rfl
    | [_] => rfl

theorem spaceLengths_eq (reversed : List Nat) (operands : List (Operand K)) :
    spaceLengths reversed operands =
      ((pairs operands).filterMap fun (low, _) => low.string?.map List.length).reverse ++
        reversed := by
  apply collect_pairs
  · intro reversed low high rest
    rw [spaceLengths]
    dsimp only
    cases low.string? <;> rfl
  · intro reversed operands none
    match operands with
    | [] => rfl
    | [_] => rfl

theorem rangeEntries_cons (reversed : List CMapEntry) (first last target : Operand K)
    (rest : List (Operand K)) :
    rangeEntries reversed (first :: last :: target :: rest) =
      rangeEntries ((Assignment.range first last target).made?.toList ++ reversed) rest := by
  rw [rangeEntries]
  simp only [Assignment.made?]
  cases first.string? with
  | none => rfl
  | some low =>
      cases last.string? with
      | none => rfl
      | some high =>
          simp only [Option.map_some, Option.bind_eq_bind, Option.bind_some]
          split
          · rfl
          · cases rangeEntry? (codeValue low) (codeValue high) target <;> rfl

theorem rangeEntries_eq (reversed : List CMapEntry) (operands : List (Operand K)) :
    rangeEntries reversed operands =
      ((triples operands).filterMap fun (first, last, target) =>
        (Assignment.range first last target).made?).reverse ++ reversed := by
  induction operands using triples.induct generalizing reversed with
  | case1 first last target rest ih =>
      rw [rangeEntries_cons, ih, triples, List.filterMap_cons]
      dsimp only
      cases (Assignment.range first last target).made? <;> simp
  | case2 operands few =>
      rw [rangeEntries.eq_2 reversed operands few, triples.eq_2 operands few]
      rfl

/-- The map that some sections make. -/
def ofSections (parts : List (Section K)) : CMap where
  entries := ((parts.flatMap Section.assignments).filterMap Assignment.made?).reverse
  codeLengths := (parts.flatMap Section.lengths).reverse

theorem close_ofSections (parts : List (Section K)) (part : Section K) :
    (ofSections parts).close part.operator part.operands = ofSections (parts ++ [part]) := by
  simp only [ofSections, close, List.flatMap_append, List.flatMap_singleton,
    Section.assignments, Section.lengths]
  split
  · next char => simp [char, charEntries_eq, List.filterMap_map]
  · split
    · next range => simp [range, rangeEntries_eq, List.filterMap_map]
    · split
      · simp [spaceLengths_eq]
      · simp

theorem foldl_step (parts : List (Section K)) (opened : List (Operand K))
    (tokens : List (Token K)) :
    (tokens.foldl step (ofSections parts, opened.reverse)).1 =
      ofSections (parts ++ sectionsFrom opened tokens) := by
  -- The state is always the map of the sections closed so far, with the opened one in reverse.
  induction tokens generalizing parts opened with
  | nil => simp [sectionsFrom]
  | cons token rest ih =>
      rw [List.foldl_cons]
      cases token with
      | operand operand =>
          have longer := ih parts (opened ++ [operand])
          rw [List.reverse_append] at longer
          exact longer
      | operator name =>
          have closed := close_ofSections parts ⟨opened, name⟩
          have onward := ih (parts ++ [⟨opened, name⟩]) []
          rw [← closed, List.append_assoc] at onward
          simpa [step, sectionsFrom] using onward
      | image image => exact ih parts []

/-- A text is read as the map that its sections make, unless there is a lexical error and nothing
that the sections assign. -/
theorem parse_eq (bytes : List UInt8) :
    parse bytes =
      match (Content.tokens (K := Float) bytes).fault? with
      | some fault =>
        if (ofSections (sections bytes)).isEmpty then .error fault
        else .ok (ofSections (sections bytes))
      | none => .ok (ofSections (sections bytes)) := by
  have read : ((Content.tokens (K := Float) bytes).tokens.foldl step (empty, [])).1 =
      ofSections (sections bytes) := by
    rw [← Array.foldl_toList]
    exact foldl_step [] [] _
  cases found : (Content.tokens (K := Float) bytes).fault? with
  | none => simp only [parse, read, found]
  | some fault => simp only [parse, read, found]

/-! ### What a map holds -/

theorem text_ofSections (parts : List (Section K)) (code : Nat) :
    (ofSections parts).text? code =
      (parts.flatMap Section.assignments).reverse.findSome? fun assignment =>
        assignment.text? code := by
  rw [CMap.text?, ofSections, ← List.filterMap_reverse, ← List.head?_filterMap,
    List.filterMap_filterMap, List.head?_filterMap]
  rfl

theorem text_ofSections_eq_some_iff (parts : List (Section K)) (code : Nat) (text : String) :
    (ofSections parts).text? code = some text ↔
      LastText (parts.flatMap Section.assignments) code text := by
  rw [text_ofSections]
  exact findSome_reverse_eq_some_iff (text_eq_some_iff_covers · code) _ text

theorem text_ofSections_eq_none_iff (parts : List (Section K)) (code : Nat) :
    (ofSections parts).text? code = none ↔
      ∀ assignment ∈ parts.flatMap Section.assignments, ∀ text,
        ¬ Covers assignment code text := by
  rw [text_ofSections]
  exact findSome_reverse_eq_none_iff (text_eq_some_iff_covers · code) _

/-- The codes of an entry are those that it has a text for. -/
theorem mem_codes_iff (entry : CMapEntry) (code : Nat) :
    code ∈ entry.codes ↔ (entry.text? code).isSome = true := by
  cases entry with
  | single own text =>
      simp only [CMapEntry.codes, CMapEntry.text?, List.mem_singleton]
      split <;> simp_all
  | listed low high texts =>
      simp only [CMapEntry.codes, CMapEntry.text?, List.mem_map, List.mem_filter, Prod.exists,
        List.mem_zipIdx_iff_getElem?, Bool.and_eq_true, decide_eq_true_eq]
      constructor
      · rintro ⟨text?, place, ⟨found, given, within⟩, rfl⟩
        simpa [found, within] using given
      · intro given
        split at given
        · next within =>
            obtain ⟨text, joined⟩ := Option.isSome_iff_exists.mp given
            exact ⟨some text, code - low, ⟨Option.join_eq_some_iff.mp joined, rfl, by omega⟩,
              Nat.add_sub_cancel' within.1⟩
        · cases given
  | run low high units =>
      simp only [CMapEntry.codes, CMapEntry.text?, List.mem_map, List.mem_range, Bool.and_eq_true,
        decide_eq_true_eq]
      constructor
      · rintro ⟨distance, within, rfl⟩
        rw [if_pos (by omega)]
        rfl
      · intro given
        split at given
        · exact ⟨code - low, by omega, by omega⟩
        · cases given

theorem isEmpty_iff (map : CMap) : map.isEmpty = true ↔ ∀ code, map.text? code = none := by
  have empty (entry : CMapEntry) :
      entry.codes.isEmpty = true ↔ ∀ code, entry.text? code = none := by
    simp only [List.isEmpty_iff, List.eq_nil_iff_forall_not_mem, mem_codes_iff,
      Option.not_isSome_iff_eq_none]
  simp only [isEmpty, text?, List.all_eq_true, empty, List.findSome?_eq_none_iff]
  exact ⟨fun none code entry member => none entry member code,
    fun none entry member code => none code entry member⟩

theorem isEmpty_ofSections_iff (parts : List (Section K)) :
    (ofSections parts).isEmpty = true ↔
      ∀ assignment ∈ parts.flatMap Section.assignments, ∀ code text,
        ¬ Covers assignment code text := by
  simp only [isEmpty_iff, text_ofSections_eq_none_iff]
  exact ⟨fun none assignment member code => none code assignment member,
    fun none code assignment member => none assignment member code⟩

/-! ### Codes in 32 bits -/

def word (bytes : List UInt8) : UInt32 := Typeface.wordOf (bytes.take 4)

theorem toNat_word (bytes : List UInt8) : (word bytes).toNat = codeValue bytes :=
  Typeface.toNat_wordOf (List.length_take_le 4 bytes)

/-- What is computed with the codes of a range is computed without loss in 32 bits. -/
structure FitsWords (low high : List UInt8) : Prop where
  first : (word low).toNat = codeValue low
  last : (word high).toNat = codeValue high
  span : codeValue low ≤ codeValue high →
    (word high - word low).toNat = codeValue high - codeValue low
  code {distance : Nat} : codeValue low + distance ≤ codeValue high →
    (word low + UInt32.ofNat distance).toNat = codeValue low + distance

theorem fitsWords (low high : List UInt8) : FitsWords low high where
  first := toNat_word low
  last := toNat_word high
  span := by
    intro ordered
    rw [← toNat_word low, ← toNat_word high] at ordered ⊢
    exact UInt32.toNat_sub_of_le _ _ (UInt32.le_iff_toNat_le.mpr ordered)
  code := by
    intro distance within
    have small : codeValue high < 2 ^ 32 := toNat_word high ▸ (word high).toNat_lt
    rw [UInt32.toNat_add, UInt32.toNat_ofNat', toNat_word]
    omega

theorem eq_ofSections_of_parse {bytes : List UInt8} {map : CMap} (parsed : parse bytes = .ok map) :
    map = ofSections (sections bytes) := by
  rw [parse_eq] at parsed
  split at parsed
  · split at parsed
    · cases parsed
    · exact (Except.ok.inj parsed).symm
  · exact (Except.ok.inj parsed).symm

/-- A map that can be read gives each code the text of the last pair or triple to cover it, in the
sections before the first lexical error, and no text to codes that none of them covers. No code and
no distance between codes is too large for 32 bits. -/
theorem last_assignment_decides {bytes : List UInt8} {map : CMap} (parsed : parse bytes = .ok map) :
    (∀ code text, map.text? code = some text ↔ LastText (assignments bytes) code text) ∧
      (∀ code, map.text? code = none ↔
        ∀ assignment ∈ assignments bytes, ∀ text, ¬ Covers assignment code text) ∧
      ∀ low high : List UInt8, FitsWords low high := by
  obtain rfl := eq_ofSections_of_parse parsed
  exact ⟨text_ofSections_eq_some_iff _, text_ofSections_eq_none_iff _, fitsWords⟩

/-- The range that covers the code 0x41 again comes after the pair for it, and the string behind it
is not closed. -/
theorem later_range_hides_pair :
    let bytes := Text.encodeUtf8
      "beginbfchar <41> <0041> endbfchar beginbfrange <40> <42> <0061> endbfrange <"
    ∃ map, parse bytes = .ok map ∧ map.text? 0x41 = some "b" ∧
      LastText (assignments bytes) 0x41 "b" := by
  intro bytes
  have given : (parse bytes).toOption.bind (fun map => map.text? 0x41) = some "b" := by
    decide +kernel
  cases parsed : parse bytes with
  | error fault =>
      rw [parsed] at given
      cases given
  | ok map =>
      rw [parsed] at given
      exact ⟨map, rfl, given, ((last_assignment_decides parsed).1 0x41 "b").mp given⟩

/-- A text cannot be read exactly if there is a lexical error in it and no code is covered before
the error, whatever lengths of codes are declared there. Otherwise, all texts and all lengths count
that stand in the sections before the error. -/
theorem fails_iff_no_text_before_fault (bytes : List UInt8) :
    let lengths := (sections bytes).flatMap Section.lengths
    (∀ fault, parse bytes = .error fault ↔
      (Content.tokens (K := Float) bytes).fault? = some fault ∧
        ∀ assignment ∈ assignments bytes, ∀ code text, ¬ Covers assignment code text) ∧
      ∀ map, parse bytes = .ok map →
        (∀ code text, map.text? code = some text ↔ LastText (assignments bytes) code text) ∧
        map.codeLengths.reverse = lengths ∧
        ∀ length, map.codeLength? = some length ↔
          lengths ≠ [] ∧ ∀ declared ∈ lengths, declared = length := by
  intro lengths
  refine ⟨?_, ?_⟩
  · intro fault
    rw [assignments, ← isEmpty_ofSections_iff, parse_eq]
    cases (Content.tokens (K := Float) bytes).fault? with
    | none => simp
    | some other => cases (ofSections (sections bytes)).isEmpty <;> simp
  · intro map parsed
    obtain rfl := eq_ofSections_of_parse parsed
    refine ⟨text_ofSections_eq_some_iff _, List.reverse_reverse _, ?_⟩
    intro length
    rw [codeLength?_eq_some_iff, Declares, ofSections]
    simp [lengths]

example : parse (Text.encodeUtf8 "begincodespacerange <00> <FF> endcodespacerange <") =
    .error .unterminatedHexadecimal := by
  decide +kernel

end CMap

end PdfElements
