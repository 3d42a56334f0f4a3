import Mathlib.Data.Nat.Digits.Lemmas
import PdfElements.Font.Typeface

/-! How fonts split strings into codes. A string is cut into pieces that are as long as the codes of
the font, the last piece may be shorter, and each piece is one glyph, whether its code has a text or
not. -/

set_option autoImplicit false

namespace PdfElements

namespace Typeface

/-! ### Pieces of strings -/

/-- The pieces of a string, of which the last may be shorter than the others. -/
def pieces (size : Nat) (bytes : List UInt8) : List (List UInt8) := chunks size bytes.length bytes

theorem chunks_eq_map {size : Nat} (positive : 0 < size) (fuel : Nat) (bytes : List UInt8)
    (enough : bytes.length ≤ fuel) :
    chunks size fuel bytes = (List.range ((bytes.length + size - 1) / size)).map fun place =>
      (bytes.drop (place * size)).take size := by
  have nothing : (0 + size - 1) / size = 0 := Nat.div_eq_of_lt (by omega)
  induction fuel generalizing bytes with
  | zero =>
      obtain rfl := List.eq_nil_of_length_eq_zero (Nat.le_zero.mp enough)
      rw [List.length_nil, nothing]
      rfl
  | succ fuel ih =>
      cases bytes with
      | nil =>
          rw [List.length_nil, nothing]
          rfl
      | cons byte rest =>
          have later : ((byte :: rest).drop size).length = rest.length + 1 - size := by simp
          have within : ((byte :: rest).drop size).length ≤ fuel := by
            rw [List.length_cons] at enough
            omega
          have count : ((byte :: rest).length + size - 1) / size =
              (((byte :: rest).drop size).length + size - 1) / size + 1 := by
            rw [later, List.length_cons]
            by_cases fits : size ≤ rest.length + 1
            · rw [show rest.length + 1 + size - 1 = rest.length + 1 - size + size - 1 + size by
                omega, Nat.add_div_right _ positive]
            · rw [show rest.length + 1 + size - 1 = rest.length + size by omega,
                Nat.add_div_right _ positive, show rest.length + 1 - size = 0 by omega, nothing,
                Nat.div_eq_of_lt (by omega)]
          rw [chunks, ih _ within, count, List.range_succ_eq_map, List.map_cons, List.map_map]
          · simp [Function.comp_def, Nat.succ_mul, Nat.add_comm]
          · rintro ⟨⟩

theorem pieces_eq_map {size : Nat} (positive : 0 < size) (bytes : List UInt8) :
    pieces size bytes = (List.range ((bytes.length + size - 1) / size)).map fun place =>
      (bytes.drop (place * size)).take size :=
  chunks_eq_map positive bytes.length bytes (Nat.le_refl _)

theorem lt_count_iff {size : Nat} (positive : 0 < size) {length place : Nat} :
    place < (length + size - 1) / size ↔ place * size < length := by
  rw [← Nat.succ_le_iff, Nat.le_div_iff_mul_le positive, Nat.succ_mul]
  omega

theorem length_pieces {size : Nat} (positive : 0 < size) (bytes : List UInt8) :
    (pieces size bytes).length = (bytes.length + size - 1) / size := by
  rw [pieces_eq_map positive, List.length_map, List.length_range]

theorem getElem_pieces {size : Nat} (positive : 0 < size) {bytes : List UInt8} {place : Nat}
    (within : place < (pieces size bytes).length) :
    (pieces size bytes)[place] = (bytes.drop (place * size)).take size := by
  simp [pieces_eq_map positive]

@[simp] theorem pieces_nil (size : Nat) : pieces size [] = [] := rfl

theorem pieces_of_ne_nil {size : Nat} (positive : 0 < size) {bytes : List UInt8}
    (nonempty : bytes ≠ []) :
    pieces size bytes = bytes.take size :: pieces size (bytes.drop size) := by
  cases bytes with
  | nil => cases nonempty rfl
  | cons byte rest =>
      have enough : ((byte :: rest).drop size).length ≤ rest.length := by
        rw [List.length_drop, List.length_cons]
        omega
      rw [pieces_eq_map positive ((byte :: rest).drop size),
        ← chunks_eq_map positive rest.length _ enough]
      rfl

theorem pieces_one (bytes : List UInt8) : pieces 1 bytes = bytes.map fun byte => [byte] := by
  induction bytes with
  | nil => rfl
  | cons byte rest ih =>
      rw [List.map_cons, ← ih]
      rfl

/-- A property of strings that passes from what is behind the first piece to the whole. -/
@[elab_as_elim] theorem cut_induction {size : Nat} (positive : 0 < size)
    {motive : List UInt8 → Prop} (nil : motive [])
    (cut : ∀ bytes, bytes ≠ [] → motive (bytes.drop size) → motive bytes) (bytes : List UInt8) :
    motive bytes := by
  induction count : bytes.length using Nat.strong_induction_on generalizing bytes with
  | h total ih =>
      by_cases nonempty : bytes = []
      · subst nonempty
        exact nil
      · apply cut bytes nonempty
        apply ih _ _ _ rfl
        have := List.length_pos_of_ne_nil nonempty
        rw [List.length_drop]
        omega

theorem flatten_pieces {size : Nat} (positive : 0 < size) (bytes : List UInt8) :
    (pieces size bytes).flatten = bytes := by
  induction bytes using cut_induction positive with
  | nil => rfl
  | cut bytes nonempty ih =>
      rw [pieces_of_ne_nil positive nonempty, List.flatten_cons, ih, List.take_append_drop]

/-- Behind whole pieces, a string is cut as if it began there. -/
theorem pieces_append {size : Nat} {front : List UInt8} (whole : size ∣ front.length)
    (back : List UInt8) : pieces size (front ++ back) = pieces size front ++ pieces size back := by
  obtain rfl | positive := Nat.eq_zero_or_pos size
  · obtain rfl := List.eq_nil_of_length_eq_zero (Nat.zero_dvd.mp whole)
    rfl
  · induction front using cut_induction positive with
    | nil => rfl
    | cut front nonempty ih =>
        have fits : size ≤ front.length :=
          Nat.le_of_dvd (List.length_pos_of_ne_nil nonempty) whole
        have rest : size ∣ (front.drop size).length := by
          rw [List.length_drop]
          exact Nat.dvd_sub whole (Nat.dvd_refl size)
        have joined : front ++ back ≠ [] := List.append_ne_nil_of_left_ne_nil nonempty back
        rw [pieces_of_ne_nil positive joined, pieces_of_ne_nil positive nonempty,
          List.take_append_of_le_length fits, List.drop_append_of_le_length fits, ih rest,
          List.cons_append]

/-! ### Codes of pieces -/

/-- The number that a piece stands for, its first byte the highest. -/
def codeOf (piece : List UInt8) : Nat :=
  piece.foldl (fun code byte => code * 256 + byte.toNat) 0

/-- The number of a piece as it is put together in 32 bits. -/
def wordOf (piece : List UInt8) : UInt32 :=
  piece.foldl (fun word byte => word <<< 8 ||| byte.toUInt32) 0

theorem codeOf_eq_ofDigits (piece : List UInt8) :
    codeOf piece = Nat.ofDigits 256 (piece.reverse.map UInt8.toNat) := by
  rw [Nat.ofDigits_eq_foldr, List.foldr_map, List.foldr_reverse]
  simp only [codeOf, Nat.cast_id, Nat.add_comm, Nat.mul_comm]

theorem toNat_shifted (word : UInt32) (byte : UInt8) (room : word.toNat < 2 ^ 24) :
    (word <<< 8 ||| byte.toUInt32).toNat = word.toNat * 256 + byte.toNat := by
  have small : byte.toNat < 2 ^ 8 := byte.toNat_lt
  have kept : word.toNat <<< 8 % 2 ^ 32 = word.toNat <<< 8 := by
    rw [Nat.shiftLeft_eq]
    omega
  rw [UInt32.toNat_or, UInt32.toNat_shiftLeft, UInt8.toNat_toUInt32]
  rw [show (8 : UInt32).toNat % 32 = 8 from rfl, kept, ← Nat.shiftLeft_add_eq_or_of_lt small,
    Nat.shiftLeft_eq]

/-- No bit is lost as long as there is room for all bytes that are to come. -/
theorem toNat_foldl_shifted (piece : List UInt8) (word : UInt32)
    (room : (word.toNat + 1) * 256 ^ piece.length ≤ 2 ^ 32) :
    (piece.foldl (fun (word : UInt32) byte => word <<< 8 ||| byte.toUInt32) word).toNat =
      piece.foldl (fun code byte => code * 256 + byte.toNat) word.toNat := by
  induction piece generalizing word with
  | nil => rfl
  | cons byte rest ih =>
      have small : byte.toNat < 256 := byte.toNat_lt
      have positive : 0 < 256 ^ rest.length := by positivity
      rw [List.length_cons, Nat.pow_succ] at room
      -- At least one more byte is to come, so that the highest byte of the word is free.
      have within : word.toNat < 2 ^ 24 := by nlinarith
      have shifted := toNat_shifted word byte within
      rw [List.foldl_cons, List.foldl_cons, ← shifted]
      apply ih
      rw [shifted]
      nlinarith

/-- Pieces of up to four bytes lose no bit in 32 bits. -/
theorem toNat_wordOf {piece : List UInt8} (short : piece.length ≤ 4) :
    (wordOf piece).toNat = codeOf piece := by
  have power : 256 ^ piece.length ≤ 256 ^ 4 := Nat.pow_le_pow_right (by norm_num) short
  apply toNat_foldl_shifted
  simpa using power

end Typeface

/-! ### Glyphs of pieces -/

namespace TypefaceKind

variable {K : Type}

/-- How many bytes the codes of a font have. -/
def codeSize : TypefaceKind K → Nat
  | .composite size _ => size
  | .simple _ _ => 1
  | .drawn _ _ _ => 1

def encoding? : TypefaceKind K → Option FontEncoding
  | .composite _ _ => none
  | .simple encoding _ => some encoding
  | .drawn encoding _ _ => some encoding

def glyphWidth [Scalar K] (kind : TypefaceKind K) (code : Nat) : K :=
  match kind with
  | .composite _ widths => Scalar.thousandth (widths.width code)
  | .simple _ widths => Scalar.thousandth (widths.width code.toUInt8 (Scalar.ofInt 600))
  | .drawn _ widths glyphs => widths.width code.toUInt8 (Scalar.ofInt 0) * glyphs.matrix.a

end TypefaceKind

namespace Typeface

variable {K : Type}

/-- The text that a font gives for a code, if the map to text or the encoding has one. -/
def mapped? (typeface : Typeface K) (code : Nat) : Option String :=
  (typeface.toUnicode?.bind fun map => map.text? code).or
    (if code < 256 then typeface.kind.encoding?.bind fun encoding => encoding.text? code.toUInt8
      else none)

theorem text_eq_mapped (typeface : Typeface K) (code : Nat) :
    typeface.text code typeface.kind.encoding? =
      (typeface.mapped? code).getD Text.replacement.toString := by
  unfold text mapped?
  cases typeface.toUnicode?.bind fun map => map.text? code <;> rfl

variable [Scalar K]

/-- The glyph that a piece of a string is. -/
def glyphOf (typeface : Typeface K) (piece : List UInt8) : Glyph K where
  code := codeOf piece
  length := piece.length
  text := typeface.text (codeOf piece) typeface.kind.encoding?
  width := typeface.kind.glyphWidth (codeOf piece)

theorem decode_eq (typeface : Typeface K) (bytes : List UInt8) :
    typeface.decode bytes = (pieces typeface.kind.codeSize bytes).map typeface.glyphOf := by
  have single (byte : UInt8) : codeOf [byte] = byte.toNat := by simp [codeOf]
  unfold decode glyphOf
  cases typeface.kind with
  | composite size widths => rfl
  | simple encoding widths =>
      simp [TypefaceKind.codeSize, pieces_one, single, byteGlyph, TypefaceKind.encoding?,
        TypefaceKind.glyphWidth]
  | drawn encoding widths glyphs =>
      simp [TypefaceKind.codeSize, pieces_one, single, byteGlyph, TypefaceKind.encoding?,
        TypefaceKind.glyphWidth]

theorem length_decode (typeface : Typeface K) (positive : 0 < typeface.kind.codeSize)
    (bytes : List UInt8) : (typeface.decode bytes).length =
      (bytes.length + typeface.kind.codeSize - 1) / typeface.kind.codeSize := by
  rw [decode_eq, List.length_map, length_pieces positive]

theorem getElem_decode (typeface : Typeface K) (positive : 0 < typeface.kind.codeSize)
    {bytes : List UInt8} {place : Nat} (within : place < (typeface.decode bytes).length) :
    (typeface.decode bytes)[place] = typeface.glyphOf
      ((bytes.drop (place * typeface.kind.codeSize)).take typeface.kind.codeSize) := by
  simp only [decode_eq, List.getElem_map, getElem_pieces positive]

/-- Behind whole codes, a string is read as if it began there. -/
theorem decode_append (typeface : Typeface K) {front : List UInt8}
    (whole : typeface.kind.codeSize ∣ front.length) (back : List UInt8) :
    typeface.decode (front ++ back) = typeface.decode front ++ typeface.decode back := by
  simp only [decode_eq, pieces_append whole, List.map_append]

theorem decode_single (typeface : Typeface K) (positive : 0 < typeface.kind.codeSize)
    (byte : UInt8) : typeface.decode [byte] = [typeface.glyphOf [byte]] := by
  rw [decode_eq, pieces_of_ne_nil positive (List.cons_ne_nil byte []),
    List.take_of_length_le positive, List.drop_of_length_le positive, pieces_nil]
  rfl

/-! ### Lengths of codes -/

omit [Scalar K] in
theorem codeLength_within (store : ObjectStore) (font : Dictionary) (toUnicode? : Option CMap) :
    1 ≤ codeLength store font toUnicode? ∧ codeLength store font toUnicode? ≤ 4 := by
  unfold codeLength
  dsimp only
  split
  · split
    · next within => simpa using within
    · decide
  · decide

/-- Whether a dictionary is that of a composite font. -/
def IsComposite (font : Dictionary) : Prop :=
  ((font.find? "Subtype").bind Object.name?).map Text.decodeUtf8 = some "Type0"

/-- The map to text that a font has, unless it is empty. -/
def toUnicodeOf? (store : ObjectStore) (font : Dictionary) : Option CMap :=
  (cmap? store font "ToUnicode").filter fun map => !map.isEmpty

theorem read_composite (store : ObjectStore) {dictionary : Dictionary}
    (composite : IsComposite dictionary) (id? : Option ObjectId) (name : String) :
    ∃ (typeface : Typeface K) (widths : CompositeWidths K),
      read store dictionary id? name = .ok typeface ∧
      typeface.kind =
        .composite (codeLength store dictionary (toUnicodeOf? store dictionary)) widths := by
  unfold read
  rw [composite]
  exact ⟨_, _, rfl, rfl⟩

theorem codeSize_of_read {store : ObjectStore} {dictionary : Dictionary} {id? : Option ObjectId}
    {name : String} {typeface : Typeface K}
    (found : read store dictionary id? name = .ok typeface) :
    (1 ≤ typeface.kind.codeSize ∧ typeface.kind.codeSize ≤ 4) ∧
      (¬ IsComposite dictionary → typeface.kind.codeSize = 1) := by
  have single : (1 ≤ 1 ∧ 1 ≤ 4) ∧ (¬ IsComposite dictionary → 1 = 1) := by simp
  unfold read at found
  dsimp only at found
  split at found
  · next composite =>
      cases found
      exact ⟨codeLength_within store dictionary _, fun simple => absurd composite simple⟩
  · split at found
    · cases drawn : glyphProcedures (K := K) store dictionary id? with
      | error fault =>
          rw [drawn] at found
          cases found
      | ok glyphs =>
          rw [drawn] at found
          cases found
          exact single
    · cases found
      exact single

/-- A font that can be read cuts every string without loss into codes of one length, the last one
apart, which is never zero, one byte for all fonts but composite ones, and at most four, so that
numbers of 32 bits hold every code. Each code is a glyph, also one that has no text. -/
theorem decoded_glyphs_partition_string {store : ObjectStore} {dictionary : Dictionary}
    {id? : Option ObjectId} {name : String} {typeface : Typeface K}
    (found : read store dictionary id? name = .ok typeface) (bytes : List UInt8) :
    let size := typeface.kind.codeSize
    let glyphs := typeface.decode bytes
    (1 ≤ size ∧ size ≤ 4) ∧ (¬ IsComposite dictionary → size = 1) ∧
      glyphs.length = (bytes.length + size - 1) / size ∧
      (glyphs.map Glyph.length).sum = bytes.length ∧
      ∀ place (within : place < glyphs.length),
        let piece := (bytes.drop (place * size)).take size
        glyphs[place].length = piece.length ∧
          (place + 1 < glyphs.length → piece.length = size) ∧
          glyphs[place].code = Nat.ofDigits 256 (piece.reverse.map UInt8.toNat) ∧
          (wordOf piece).toNat = glyphs[place].code ∧
          glyphs[place].text =
            (typeface.mapped? glyphs[place].code).getD Text.replacement.toString := by
  intro size glyphs
  obtain ⟨within, single⟩ := codeSize_of_read found
  have positive : 0 < size := within.1
  have count : glyphs.length = (bytes.length + size - 1) / size :=
    typeface.length_decode positive bytes
  refine ⟨within, single, count, ?_, ?_⟩
  · calc (glyphs.map Glyph.length).sum
      _ = ((pieces size bytes).map List.length).sum := by
          unfold glyphs
          rw [typeface.decode_eq, List.map_map]
          rfl
      _ = bytes.length := by rw [← List.length_flatten, flatten_pieces positive]
  · intro place present piece
    have glyph : glyphs[place] = typeface.glyphOf piece := typeface.getElem_decode positive present
    have short : piece.length ≤ 4 := (List.length_take_le size _).trans within.2
    rw [glyph]
    refine ⟨rfl, ?_, codeOf_eq_ofDigits piece, toNat_wordOf short, typeface.text_eq_mapped _⟩
    intro further
    rw [count, lt_count_iff positive, Nat.succ_mul] at further
    rw [List.length_take, List.length_drop]
    omega

def emptyCodesFont : Dictionary :=
  let key := Text.encodeUtf8
  [(key "Subtype", .name (key "Type0")),
    (key "Encoding", .stream [] (key "1 begincodespacerange <> <> endcodespacerange"))]

/-- Codes of no bytes are refused: three bytes are a code of two bytes and one that is cut off. -/
theorem three_bytes_are_partitioned :
    ∃ typeface : Typeface Float, read ⟨[], []⟩ emptyCodesFont none "F" = .ok typeface ∧
      (cmap? ⟨[], []⟩ emptyCodesFont "Encoding").bind CMap.codeLength? = some 0 ∧
      typeface.kind.codeSize = 2 ∧ (typeface.decode [0x41, 0x42, 0x43]).length = 2 ∧
      ((typeface.decode [0x41, 0x42, 0x43]).map Glyph.length).sum = 3 := by
  have declared : (cmap? ⟨[], []⟩ emptyCodesFont "Encoding").bind CMap.codeLength? = some 0 := by
    decide +kernel
  have composite : IsComposite emptyCodesFont := by
    unfold IsComposite
    decide +kernel
  obtain ⟨typeface, widths, found, kind⟩ := read_composite (K := Float) ⟨[], []⟩ composite none "F"
  have size : typeface.kind.codeSize = 2 := by
    rw [kind]
    simp [TypefaceKind.codeSize, codeLength, declared]
  obtain ⟨_, _, count, sum, _⟩ := decoded_glyphs_partition_string found [0x41, 0x42, 0x43]
  rw [size] at count
  exact ⟨typeface, found, declared, size, count, sum⟩

end Typeface

/-! ### Codes under identity encodings -/

namespace CMap

/-- All code space ranges of a map, and there are some, are of codes of one length. -/
def Declares (map : CMap) (length : Nat) : Prop :=
  map.codeLengths ≠ [] ∧ ∀ declared ∈ map.codeLengths, declared = length

theorem codeLength?_eq_some_iff {map : CMap} {length : Nat} :
    map.codeLength? = some length ↔ map.Declares length := by
  unfold codeLength? Declares
  cases map.codeLengths with
  | nil => simp
  | cons first rest =>
      simp only [List.all_eq_true, beq_iff_eq, Option.ite_none_right_eq_some, Option.some.injEq,
        ne_eq, reduceCtorEq, not_false_eq_true, List.forall_mem_cons, true_and]
      constructor
      · rintro ⟨same, rfl⟩
        exact ⟨rfl, same⟩
      · rintro ⟨rfl, same⟩
        exact ⟨same, rfl⟩

end CMap

namespace Typeface

variable {K : Type} [Scalar K]

omit [Scalar K] in
/-- Without an embedded encoding, codes have two bytes unless the map to text declares one of the
other lengths that codes may have. -/
theorem codeLength_eq_two_iff {store : ObjectStore} {font : Dictionary}
    (unembedded : cmap? store font "Encoding" = none) (toUnicode? : Option CMap) :
    codeLength store font toUnicode? = 2 ↔
      ∀ map, toUnicode? = some map → ∀ length ∈ [1, 3, 4], ¬ map.Declares length := by
  have lengths : (∀ map, toUnicode? = some map → ∀ length ∈ [1, 3, 4], ¬ map.Declares length) ↔
      ∀ length ∈ [1, 3, 4], toUnicode?.bind CMap.codeLength? ≠ some length := by
    cases toUnicode? with
    | none => simp
    | some map => simp [CMap.codeLength?_eq_some_iff]
  rw [lengths, codeLength, unembedded, Option.bind_none, Option.none_or]
  cases toUnicode?.bind CMap.codeLength? with
  | none => simp
  | some length =>
      simp only [Bool.and_eq_true, decide_eq_true_eq, List.forall_mem_cons, List.not_mem_nil,
        IsEmpty.forall_iff, implies_true, and_true, ne_eq, Option.some.injEq]
      split <;> omega

theorem cuts_in_two_iff (typeface : Typeface K)
    (within : 1 ≤ typeface.kind.codeSize ∧ typeface.kind.codeSize ≤ 4) :
    (∀ bytes, typeface.decode bytes = (pieces 2 bytes).map typeface.glyphOf) ↔
      typeface.kind.codeSize = 2 := by
  constructor
  · intro same
    have lengths := congrArg (List.map Glyph.length) (same [0, 0, 0, 0])
    rw [decode_eq, List.map_map, List.map_map] at lengths
    have lengths : (pieces typeface.kind.codeSize [0, 0, 0, 0]).map List.length =
        (pieces 2 [0, 0, 0, 0]).map List.length := lengths
    obtain ⟨positive, small⟩ := within
    interval_cases typeface.kind.codeSize
    · cases lengths
    · rfl
    · cases lengths
    · cases lengths
  · intro two bytes
    rw [decode_eq, two]

/-- A composite font with an identity encoding can be read. It cuts every string into codes of two
bytes only as long as its map to text does not declare that all codes have one, three or four bytes,
although that map is not meant to say how strings are cut. -/
theorem identity_codes_have_two_bytes_iff (store : ObjectStore) {dictionary : Dictionary}
    (composite : IsComposite dictionary)
    (identity : ∃ encoding ∈ ["Identity-H", "Identity-V"],
      store.find? dictionary "Encoding" = some (.name (Text.encodeUtf8 encoding)))
    (id? : Option ObjectId) (name : String) :
    ∃ typeface : Typeface K, read store dictionary id? name = .ok typeface ∧
      ((∀ bytes, typeface.decode bytes = (pieces 2 bytes).map typeface.glyphOf) ↔
        ∀ map, toUnicodeOf? store dictionary = some map →
          ∀ length ∈ [1, 3, 4], ¬ map.Declares length) := by
  obtain ⟨typeface, widths, found, kind⟩ := read_composite (K := K) store composite id? name
  have unembedded : cmap? store dictionary "Encoding" = none := by
    obtain ⟨encoding, _, named⟩ := identity
    simp [cmap?, ObjectStore.stream?, named, Object.stream?]
  refine ⟨typeface, found, ?_⟩
  rw [typeface.cuts_in_two_iff (codeSize_of_read found).1, kind]
  exact codeLength_eq_two_iff unembedded _

def narrowedFont : Dictionary :=
  let key := Text.encodeUtf8
  [(key "Subtype", .name (key "Type0")), (key "Encoding", .name (key "Identity-H")),
    (key "ToUnicode", .stream [] (key ("1 begincodespacerange <00> <FF> endcodespacerange " ++
      "1 beginbfchar <41> <0041> endbfchar")))]

theorem narrowed_codes_have_one_byte :
    IsComposite narrowedFont ∧
      ObjectStore.find? ⟨[], []⟩ narrowedFont "Encoding" =
        some (.name (Text.encodeUtf8 "Identity-H")) ∧
      ∃ typeface : Typeface Float, read ⟨[], []⟩ narrowedFont none "F" = .ok typeface ∧
        ∃ bytes, typeface.decode bytes ≠ (pieces 2 bytes).map typeface.glyphOf := by
  have composite : IsComposite narrowedFont := by
    unfold IsComposite
    decide +kernel
  have identity : ObjectStore.find? ⟨[], []⟩ narrowedFont "Encoding" =
      some (.name (Text.encodeUtf8 "Identity-H")) := rfl
  obtain ⟨typeface, found, whole⟩ := identity_codes_have_two_bytes_iff (K := Float) ⟨[], []⟩
    composite ⟨"Identity-H", by decide, identity⟩ none "F"
  obtain ⟨map, carried⟩ : ∃ map, toUnicodeOf? ⟨[], []⟩ narrowedFont = some map := by
    apply Option.isSome_iff_exists.mp
    decide +kernel
  have narrow : (toUnicodeOf? ⟨[], []⟩ narrowedFont).bind CMap.codeLength? = some 1 := by
    decide +kernel
  rw [carried] at narrow
  have declares : map.Declares 1 := CMap.codeLength?_eq_some_iff.mp narrow
  refine ⟨composite, identity, typeface, found, ?_⟩
  by_contra never
  apply whole.mp (fun bytes => ?_) map carried 1 (by decide) declares
  by_contra other
  exact never ⟨bytes, other⟩

end Typeface

end PdfElements
