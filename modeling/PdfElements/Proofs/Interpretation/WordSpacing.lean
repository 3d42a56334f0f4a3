import PdfElements.Proofs.Interpretation.Showing

/-! Word spacing in fonts whose codes have several bytes. No whole code is a word space there, but a
string may be cut off behind the first byte of its last code, and if that byte is 32, it counts as a
word space like the code of one byte that it would be in another font. -/

set_option autoImplicit false

namespace PdfElements

variable {K : Type}

namespace Typeface

/-- Whether all that a string has of its last code is the byte 32. -/
def EndsWithCutOffSpace (size : Nat) (bytes : List UInt8) : Prop :=
  bytes.length % size = 1 ∧ bytes.getLast? = some 0x20

theorem piece_eq_single_iff {size : Nat} (wide : 2 ≤ size) {bytes : List UInt8} {place : Nat}
    {byte : UInt8} :
    (bytes.drop (place * size)).take size = [byte] ↔
      bytes.length = place * size + 1 ∧ bytes.getLast? = some byte := by
  constructor
  · intro single
    have length := congrArg List.length single
    rw [List.length_take, List.length_drop, List.length_singleton] at length
    have rest : bytes.drop (place * size) = [byte] := by
      rw [← single, List.take_of_length_le]
      rw [List.length_drop]
      omega
    refine ⟨by omega, ?_⟩
    rw [← List.take_append_drop (place * size) bytes, rest, List.getLast?_concat]
  · rintro ⟨length, last⟩
    obtain ⟨front, rfl⟩ := List.getLast?_eq_some_iff.mp last
    rw [List.length_append, List.length_singleton] at length
    rw [← Nat.succ.inj length, List.drop_left, List.take_of_length_le]
    rw [List.length_singleton]
    omega

theorem one_left_iff {size : Nat} (wide : 2 ≤ size) {length place : Nat}
    (within : place * size < length) :
    length = place * size + 1 ↔ place + 1 = (length + size - 1) / size ∧ length % size = 1 := by
  have positive : 0 < size := by omega
  obtain ⟨left, rfl⟩ := Nat.exists_eq_add_of_lt within
  have count : (place * size + left + 1 + size - 1) / size = place + left / size + 1 := by
    rw [show place * size + left + 1 + size - 1 = left + place * size + size by omega,
      Nat.add_div_right _ positive, Nat.add_mul_div_right _ _ positive, Nat.add_comm place]
  rw [count, Nat.add_assoc, Nat.mul_add_mod_self_right]
  constructor
  · intro alone
    obtain rfl : left = 0 := by omega
    rw [Nat.zero_div, Nat.zero_add, Nat.mod_eq_of_lt wide]
    exact ⟨rfl, rfl⟩
  · rintro ⟨final, rest⟩
    have short : left < size := by
      rw [← Nat.div_eq_zero_iff_lt positive]
      omega
    obtain full | shorter := Nat.eq_or_lt_of_le (Nat.succ_le_of_lt short)
    · rw [show left + 1 = size from full, Nat.mod_self] at rest
      cases rest
    · rw [Nat.mod_eq_of_lt shorter] at rest
      omega

theorem isSpace_glyphOf_iff [Scalar K] (typeface : Typeface K) (piece : List UInt8) :
    (typeface.glyphOf piece).isSpace ↔ piece = [0x20] := by
  have code (byte : UInt8) : codeOf [byte] = 32 ↔ byte = 0x20 := by
    simp [codeOf, ← UInt8.toNat_inj]
  simp only [Glyph.isSpace, glyphOf, Bool.and_eq_true, beq_iff_eq, List.length_eq_one_iff]
  constructor
  · rintro ⟨⟨byte, rfl⟩, space⟩
    rw [(code byte).mp space]
  · rintro rfl
    exact ⟨⟨_, rfl⟩, rfl⟩

/-- In a font whose codes have several bytes, the only glyph that can be a word space is the last
one of a string, and it is if no more than the byte 32 is left for it. -/
theorem isSpace_decode_iff [Scalar K] {typeface : Typeface K} (wide : 2 ≤ typeface.kind.codeSize)
    {bytes : List UInt8} {place : Nat} (within : place < (typeface.decode bytes).length) :
    (typeface.decode bytes)[place].isSpace ↔
      place + 1 = (typeface.decode bytes).length ∧
        EndsWithCutOffSpace typeface.kind.codeSize bytes := by
  have positive : 0 < typeface.kind.codeSize := by omega
  have count := typeface.length_decode positive bytes
  have begins : place * typeface.kind.codeSize < bytes.length := by
    rw [← lt_count_iff positive, ← count]
    exact within
  rw [typeface.getElem_decode positive within, isSpace_glyphOf_iff, piece_eq_single_iff wide,
    one_left_iff wide begins, count, and_assoc]
  rfl

end Typeface

/-- With another word spacing. -/
def Interpreter.spaced (interpreter : Interpreter K) (spacing : K) : Interpreter K :=
  interpreter.modify fun state =>
    state.modifyText fun parameters => { parameters with wordSpacing := spacing }

namespace Surroundings

variable [Scalar K]

theorem showGlyph_spaced (surroundings : Surroundings K) {typeface : Typeface K}
    (undrawn : typeface.glyphs? = none) (parameters : TextParameters K) {glyph : Glyph K}
    (unspaced : ¬ glyph.isSpace) (interpreter : Interpreter K) (spacing : K) :
    surroundings.showGlyph { parameters with wordSpacing := spacing } typeface
        (interpreter.spaced spacing) glyph =
      (surroundings.showGlyph parameters typeface interpreter glyph).spaced spacing := by
  have advance : TextParameters.advance { parameters with wordSpacing := spacing } glyph =
      parameters.advance glyph := by
    simp only [TextParameters.advance, unspaced, Bool.false_eq_true, ↓reduceIte]
    rfl
  have text : (interpreter.spaced spacing).state.text? = interpreter.state.text? := rfl
  unfold showGlyph
  rw [advance, text]
  cases interpreter.state.text? with
  | none => rfl
  | some matrices =>
      simp only [drawGlyphOrReport, undrawn]
      rfl

/-- Without word spaces, the word spacing is as if it were set behind the string. -/
theorem foldl_showGlyph_spaced (surroundings : Surroundings K) {typeface : Typeface K}
    (undrawn : typeface.glyphs? = none) (parameters : TextParameters K) {glyphs : List (Glyph K)}
    (unspaced : ∀ glyph ∈ glyphs, ¬ glyph.isSpace) (interpreter : Interpreter K) (spacing : K) :
    glyphs.foldl
        (surroundings.showGlyph { parameters with wordSpacing := spacing } typeface)
        (interpreter.spaced spacing) =
      (glyphs.foldl (surroundings.showGlyph parameters typeface) interpreter).spaced spacing := by
  induction glyphs generalizing interpreter with
  | nil => rfl
  | cons glyph rest ih =>
      obtain ⟨first, others⟩ := List.forall_mem_cons.mp unspaced
      rw [List.foldl_cons, List.foldl_cons,
        surroundings.showGlyph_spaced undrawn parameters first interpreter spacing, ih others]

variable {surroundings : Surroundings K} {typeface : Typeface K} {interpreter : Interpreter K}

theorem showString_spaced (undrawn : typeface.glyphs? = none)
    (opened : interpreter.state.text?.isSome)
    (selected : interpreter.state.current.text.typeface? = some typeface) {bytes : List UInt8}
    (unspaced : ∀ glyph ∈ typeface.decode bytes, ¬ glyph.isSpace) (spacing : K) :
    surroundings.showString bytes (interpreter.spaced spacing) =
      .done ((surroundings.showString bytes interpreter).interpreter.spaced spacing) := by
  have stillOpened : (interpreter.spaced spacing).state.text?.isSome := opened
  have stillSelected : (interpreter.spaced spacing).state.current.text.typeface? = some typeface :=
    selected
  rw [surroundings.showString_eq opened selected,
    surroundings.showString_eq stillOpened stillSelected]
  exact congrArg Outcome.done (surroundings.foldl_showGlyph_spaced undrawn _ unspaced interpreter
    spacing)

/-- Behind whole codes, a byte 32 moves the pen by its width, the character spacing and the word
spacing. -/
theorem text?_showString_concat_space (nested : surroundings.nested.Resumes)
    (opened : interpreter.state.text?.isSome)
    (selected : interpreter.state.current.text.typeface? = some typeface) {front : List UInt8}
    (positive : 0 < typeface.kind.codeSize) (whole : typeface.kind.codeSize ∣ front.length) :
    let parameters := interpreter.state.current.text
    (surroundings.showString (front ++ [0x20]) interpreter).interpreter.state.text? =
      (surroundings.showString front interpreter).interpreter.state.text?.map fun matrices =>
        matrices.advance ((typeface.kind.glyphWidth 32 * parameters.fontSize +
          parameters.characterSpacing + parameters.wordSpacing) * parameters.horizontalFactor) := by
  intro parameters
  obtain ⟨matrices, pen⟩ := Option.isSome_iff_exists.mp opened
  have space : (typeface.glyphOf [0x20]).isSpace := (typeface.isSpace_glyphOf_iff _).mpr rfl
  have advance : parameters.advance (typeface.glyphOf [0x20]) =
      (typeface.kind.glyphWidth 32 * parameters.fontSize + parameters.characterSpacing +
        parameters.wordSpacing) * parameters.horizontalFactor := by
    simp only [TextParameters.advance, space, ↓reduceIte]
    rfl
  rw [text?_showString nested pen selected, text?_showString nested pen selected,
    typeface.decode_append whole, typeface.decode_single positive, TextMatrices.behind,
    List.foldl_append, ← advance]
  rfl

end Surroundings

namespace Interpretation

variable [Scalar K]

/-- In a font whose codes have several bytes, the word spacing counts for no string but one that is
cut off behind the first byte of its last code, and that byte is 32: this byte is a word space, and
the pen moves once by the word spacing behind it. -/
theorem word_spacing_counts_behind_cut_off_space (setting : Setting) {typeface : Typeface K}
    {size : Nat} {widths : CompositeWidths K} (composite : typeface.kind = .composite size widths)
    (wide : 2 ≤ size) (bytes : List UInt8) :
    let surroundings : Surroundings K := surroundings setting
    let glyphs := typeface.decode bytes
    (∀ place (within : place < glyphs.length), glyphs[place].isSpace ↔
      place + 1 = glyphs.length ∧ Typeface.EndsWithCutOffSpace size bytes) ∧
    ∀ interpreter : Interpreter K, interpreter.state.text?.isSome →
      interpreter.state.current.text.typeface? = some typeface →
      (¬ Typeface.EndsWithCutOffSpace size bytes → ∀ spacing,
        surroundings.showString bytes (interpreter.spaced spacing) =
          .done ((surroundings.showString bytes interpreter).interpreter.spaced spacing)) ∧
      (Typeface.EndsWithCutOffSpace size bytes →
        let parameters := interpreter.state.current.text
        (surroundings.showString bytes interpreter).interpreter.state.text? =
          (surroundings.showString bytes.dropLast interpreter).interpreter.state.text?.map
            fun matrices => matrices.advance
              ((Scalar.thousandth (widths.width 32) * parameters.fontSize +
                parameters.characterSpacing + parameters.wordSpacing) *
                  parameters.horizontalFactor)) := by
  intro surroundings glyphs
  have same : typeface.kind.codeSize = size := by rw [composite]; rfl
  have width : typeface.kind.glyphWidth 32 = Scalar.thousandth (widths.width 32) := by
    rw [composite]
    rfl
  have spaces : ∀ place (within : place < glyphs.length), glyphs[place].isSpace ↔
      place + 1 = glyphs.length ∧ Typeface.EndsWithCutOffSpace size bytes := by
    subst same
    exact fun place within => Typeface.isSpace_decode_iff wide within
  refine ⟨spaces, ?_⟩
  intro interpreter opened selected
  constructor
  · intro whole spacing
    have undrawn : typeface.glyphs? = none := by rw [Typeface.glyphs?, composite]
    apply Surroundings.showString_spaced undrawn opened selected
    intro glyph member space
    obtain ⟨place, within, rfl⟩ := List.getElem_of_mem member
    exact whole ((spaces place within).mp space).2
  · rintro ⟨rest, last⟩
    obtain ⟨front, rfl⟩ := List.getLast?_eq_some_iff.mp last
    have positive : 0 < typeface.kind.codeSize := by omega
    have whole : typeface.kind.codeSize ∣ front.length := by
      have remainder := Nat.dvd_sub_mod (n := size) (front ++ [0x20]).length
      rw [rest, List.length_append] at remainder
      rwa [same]
    rw [List.dropLast_concat, ← width]
    exact Surroundings.text?_showString_concat_space (resumes_run setting) opened selected positive
      whole

def wideCodesFont : Typeface Float where
  font := ⟨"W", "w", false, false, false⟩
  kind := .composite 2 ⟨[], 500⟩
  toUnicode? := none
  ascent := 1
  descent := 0

def spacedPage : Interpreter Float :=
  (Interpreter.start : Interpreter Float).modify fun state =>
    { state.modifyText fun text =>
        { text with typeface? := some wideCodesFont, fontSize := 10, wordSpacing := 100 } with
      text? := some .initial }

theorem cut_off_space_is_spaced :
    let surroundings : Surroundings Float := surroundings ⟨⟨[], []⟩, {}⟩
    let pen (bytes : List UInt8) : Option Float :=
      (surroundings.showString bytes spacedPage).interpreter.state.text?.map fun matrices =>
        matrices.text.e
    (∃ within : 1 < (wideCodesFont.decode [0x00, 0x41, 0x20]).length,
      (wideCodesFont.decode [0x00, 0x41, 0x20])[1].isSpace) ∧
    pen [0x00, 0x41] = some 5 ∧ pen [0x00, 0x41, 0x20] = some 110 := by
  intro surroundings pen
  have cutOff : Typeface.EndsWithCutOffSpace 2 [0x00, 0x41, 0x20] := ⟨rfl, rfl⟩
  have composite : wideCodesFont.kind = .composite 2 ⟨[], 500⟩ := rfl
  obtain ⟨spaces, shown⟩ := word_spacing_counts_behind_cut_off_space ⟨⟨[], []⟩, {}⟩ composite
    (by decide) [0x00, 0x41, 0x20]
  obtain ⟨_, moved⟩ := shown spacedPage rfl rfl
  refine ⟨⟨by decide, (spaces 1 (by decide)).mpr ⟨rfl, cutOff⟩⟩, ?_, ?_⟩
  · decide +kernel
  · unfold pen
    rw [moved cutOff]
    decide +kernel

end Interpretation

end PdfElements
