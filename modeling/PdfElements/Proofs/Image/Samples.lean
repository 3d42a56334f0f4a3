import Mathlib.Algebra.Order.Floor.Div
import PdfElements.Image.Samples

/-! Samples as the bits of their rows spell them. Whatever the depth, the samples of a row stand in
its bits one behind the other, each with its high bit first, and a reader that checks every place
before it reads finds all of them. Bits behind the last sample of a row are never read. -/

set_option autoImplicit false

namespace PdfElements

/-! ### Bits -/

def byteBits (byte : UInt8) : List Bool :=
  (List.range 8).map fun place => byte.toNat.testBit (7 - place)

def bitsNumber (bits : List Bool) : Nat := bits.foldl (fun number bit => 2 * number + bit.toNat) 0

@[simp] theorem length_byteBits (byte : UInt8) : (byteBits byte).length = 8 := rfl

theorem bitsNumber_concat (bits : List Bool) (bit : Bool) :
    bitsNumber (bits ++ [bit]) = 2 * bitsNumber bits + bit.toNat := by
  simp [bitsNumber]

theorem bitsNumber_append (bits more : List Bool) :
    bitsNumber (bits ++ more) = bitsNumber bits * 2 ^ more.length + bitsNumber more := by
  induction more using List.reverseRecOn with
  | nil => simp [bitsNumber]
  | append_singleton more bit ih =>
      rw [← List.append_assoc, bitsNumber_concat, bitsNumber_concat, ih, List.length_append,
        List.length_singleton, Nat.pow_succ, ← Nat.mul_assoc]
      omega

/-- Bits of a byte from any place on. -/
theorem bitsNumber_slice (byte : UInt8) {start count : Nat} (within : start + count ≤ 8) :
    bitsNumber (((byteBits byte).drop start).take count) =
      byte.toNat / 2 ^ (8 - count - start) % 2 ^ count := by
  induction count with
  | zero => simp [bitsNumber, Nat.mod_one]
  | succ count ih =>
      have bit : ((byteBits byte).drop start)[count]? =
          some (byte.toNat.testBit (7 - (start + count))) := by
        rw [List.getElem?_drop, byteBits, List.getElem?_map, List.getElem?_range (by omega)]
        rfl
      have place : 8 - count - start = 7 - (start + count) + 1 := by omega
      have same : 8 - (count + 1) - start = 7 - (start + count) := by omega
      rw [List.take_add_one, bit, Option.toList_some, bitsNumber_concat, ih (by omega), place, same,
        Nat.toNat_testBit, Nat.pow_succ 2 count, Nat.pow_succ, ← Nat.div_div_eq_div_mul,
        Nat.mul_comm (2 ^ count) 2, Nat.mod_mul, Nat.add_comm]

theorem bitsNumber_byteBits (byte : UInt8) : bitsNumber (byteBits byte) = byte.toNat := by
  have whole : (byteBits byte).take 8 = byteBits byte := rfl
  have slice := bitsNumber_slice byte (Nat.le_refl (0 + 8))
  rw [List.drop_zero, whole] at slice
  rw [slice, Nat.pow_zero, Nat.div_one]
  exact Nat.mod_eq_of_lt byte.toNat_lt

theorem drop_flatMap_byteBits (bytes : List UInt8) (count : Nat) :
    (bytes.flatMap byteBits).drop (8 * count) = (bytes.drop count).flatMap byteBits := by
  induction bytes generalizing count with
  | nil => simp
  | cons byte rest ih =>
      cases count with
      | zero => rfl
      | succ count =>
          rw [List.flatMap_cons, Nat.mul_succ, Nat.add_comm, ← List.drop_drop,
            List.drop_left' (length_byteBits byte), ih, List.drop_succ_cons]

section placed

variable {bytes : List UInt8} {offset : Nat} {value : UInt8} (found : bytes[offset]? = some value)

include found

theorem drop_of_getElem? : bytes.drop offset = value :: bytes.drop (offset + 1) := by
  obtain ⟨bound, rfl⟩ := List.getElem?_eq_some_iff.mp found
  exact List.drop_eq_getElem_cons bound

/-- Bits that lie in one byte of several. -/
theorem slice_of_byte {start count : Nat} (within : start + count ≤ 8) :
    ((bytes.flatMap byteBits).drop (8 * offset + start)).take count =
      ((byteBits value).drop start).take count := by
  have begins : start ≤ (byteBits value).length := by
    rw [length_byteBits]
    omega
  have ends : count ≤ ((byteBits value).drop start).length := by
    rw [List.length_drop, length_byteBits]
    omega
  rw [← List.drop_drop, drop_flatMap_byteBits, drop_of_getElem? found, List.flatMap_cons,
    List.drop_append_of_le_length begins, List.take_append_of_le_length ends]

/-- The bits of two bytes of several. -/
theorem slice_of_bytes {low : UInt8} (next : bytes[offset + 1]? = some low) :
    ((bytes.flatMap byteBits).drop (8 * offset)).take 16 = byteBits value ++ byteBits low := by
  rw [drop_flatMap_byteBits, drop_of_getElem? found, drop_of_getElem? next, List.flatMap_cons,
    List.flatMap_cons, ← List.append_assoc]
  exact List.take_left' rfl

end placed

namespace SampleLayout

variable {layout : SampleLayout} {data : Array UInt8} {row place : Nat}

/-! ### Rows -/

theorem stride_eq_ceilDiv (layout : SampleLayout) :
    layout.stride = (layout.width * layout.components * layout.bits) ⌈/⌉ 8 := rfl

/-- The bits that the samples of a row take up. -/
def used (layout : SampleLayout) : Nat := layout.width * layout.components * layout.bits

theorem used_le (layout : SampleLayout) : layout.used ≤ 8 * layout.stride := by
  simp only [used, stride]
  omega

def rowBytes (layout : SampleLayout) (data : Array UInt8) (row : Nat) : Array UInt8 :=
  data.extract (row * layout.stride) ((row + 1) * layout.stride)

def rowBits (layout : SampleLayout) (data : Array UInt8) (row : Nat) : List Bool :=
  (layout.rowBytes data row).toList.flatMap byteBits

def sampleBits (layout : SampleLayout) (data : Array UInt8) (row place : Nat) : List Bool :=
  ((layout.rowBits data row).drop (place * layout.bits)).take layout.bits

/-! ### Reading with every place checked -/

/-- A row of the data, if they hold all of it. -/
def row? (layout : SampleLayout) (data : Array UInt8) (row : Nat) : Option (Array UInt8) :=
  if (row + 1) * layout.stride ≤ data.size then some (layout.rowBytes data row) else none

/-- A sample of a row, if the row holds it and it does not go beyond the byte that it begins in,
unless it takes up two. -/
def sample? (layout : SampleLayout) (bytes : Array UInt8) (place : Nat) : Option Nat :=
  if layout.bits = 16 then do
    let high ← bytes[2 * place]?
    let low ← bytes[2 * place + 1]?
    return high.toNat * 256 + low.toNat
  else
    let bit := place * layout.bits
    if layout.bits + bit % 8 ≤ 8 then do
      let byte ← bytes[bit / 8]?
      return byte.toNat / Nat.pow 2 (8 - layout.bits - bit % 8) % Nat.pow 2 layout.bits
    else none

/-- The pixels of the data, if every place that is read is there. -/
def pixels? (layout : SampleLayout) (data : Array UInt8) : Option (List (List Nat)) := do
  let rows ← (List.range layout.height).mapM fun row => do
    let bytes ← layout.row? data row
    (List.range layout.width).mapM fun column =>
      (List.range layout.components).mapM fun component =>
        layout.sample? bytes (column * layout.components + component)
  return rows.flatten

theorem mapM_of_some {First Second : Type} {items : List First} {act : First → Option Second}
    {result : First → Second} (each : ∀ item ∈ items, act item = some (result item)) :
    items.mapM act = some (items.map result) := by
  induction items with
  | nil => rfl
  | cons item rest ih =>
      have first := each item List.mem_cons_self
      have others := ih fun other member => each other (List.mem_cons_of_mem item member)
      rw [List.mapM_cons, first, others]
      rfl

/-- Reading a sample with every place checked does not fail. It gives the sample, which is the
number that its bits spell. -/
structure SampleSpelled (layout : SampleLayout) (data : Array UInt8) (row place : Nat) : Prop where
  checked : layout.sample? (layout.rowBytes data row) place = some (layout.sample data row place)
  length : (layout.sampleBits data row place).length = layout.bits
  spelled : layout.sample data row place = bitsNumber (layout.sampleBits data row place)

/-! ### Data that hold all samples -/

theorem fits_iff {size : Nat} : layout.fits size = true ↔
    layout.bits ∈ [1, 2, 4, 8, 16] ∧ 1 ≤ layout.components ∧
      layout.stride * layout.height ≤ size := by
  simp only [fits, Bool.and_eq_true, List.contains_iff_mem, bne_iff_ne, decide_eq_true_eq, and_assoc,
    Nat.one_le_iff_ne_zero]

theorem within_byte {bits : Nat} (depth : bits ∈ [1, 2, 4, 8, 16]) (single : bits ≠ 16)
    (place : Nat) : 1 ≤ bits ∧ bits + place * bits % 8 ≤ 8 := by
  simp only [List.mem_cons, List.not_mem_nil, or_false] at depth
  rcases depth with rfl | rfl | rfl | rfl | rfl <;> omega

theorem place_lt {column component : Nat} (column_lt : column < layout.width)
    (component_lt : component < layout.components) :
    column * layout.components + component < layout.width * layout.components := by
  calc column * layout.components + component
      < column * layout.components + layout.components := by omega
    _ = (column + 1) * layout.components := (Nat.succ_mul _ _).symm
    _ ≤ layout.width * layout.components := Nat.mul_le_mul_right _ column_lt

section held

variable (depth : layout.bits ∈ [1, 2, 4, 8, 16])
  (held : layout.stride * layout.height ≤ data.size) (inside : row < layout.height)
  (listed : place < layout.width * layout.components)

include listed in
theorem sample_le_used : place * layout.bits + layout.bits ≤ layout.used := by
  rw [← Nat.succ_mul]
  exact Nat.mul_le_mul_right _ listed

include held inside in
theorem row_le_size : (row + 1) * layout.stride ≤ data.size := by
  have rows : (row + 1) * layout.stride ≤ layout.height * layout.stride :=
    Nat.mul_le_mul_right _ inside
  rw [Nat.mul_comm layout.height] at rows
  exact Nat.le_trans rows held

include held inside in
theorem size_rowBytes : (layout.rowBytes data row).size = layout.stride := by
  have within := row_le_size held inside
  rw [Nat.succ_mul] at within
  rw [rowBytes, Array.size_extract, Nat.succ_mul]
  omega

include held inside in
theorem getElem?_rowBytes {offset : Nat} (within : offset < layout.stride) :
    ∃ value, (layout.rowBytes data row)[offset]? = some value ∧
      byte data (row * layout.stride + offset) = value.toNat := by
  have bound : offset < (layout.rowBytes data row).size := by rwa [size_rowBytes held inside]
  refine ⟨_, Array.getElem?_eq_getElem bound, ?_⟩
  have place : row * layout.stride + offset < data.size := by
    have rows := row_le_size held inside
    rw [Nat.succ_mul] at rows
    omega
  simp only [byte, rowBytes, Array.getElem_extract, Array.getElem?_eq_getElem place,
    Option.getD_some]

include held inside listed in
theorem sampleSpelled_of_double (double : layout.bits = 16) :
    layout.SampleSpelled data row place := by
  have used := sample_le_used listed
  have stride := layout.used_le
  rw [double] at used
  obtain ⟨high, foundHigh, sameHigh⟩ :=
    getElem?_rowBytes held inside (show 2 * place < layout.stride by omega)
  obtain ⟨low, foundLow, sameLow⟩ :=
    getElem?_rowBytes held inside (show 2 * place + 1 < layout.stride by omega)
  have bits : layout.sampleBits data row place = byteBits high ++ byteBits low := by
    have begins : place * 16 = 8 * (2 * place) := by omega
    rw [sampleBits, rowBits, double, begins]
    rw [← Array.getElem?_toList] at foundHigh foundLow
    exact slice_of_bytes foundHigh foundLow
  have sample : layout.sample data row place = high.toNat * 256 + low.toNat := by
    simp only [SampleLayout.sample, double, if_true, sameHigh, Nat.add_assoc, sameLow]
  refine ⟨?_, ?_, ?_⟩
  · simp [sample?, double, foundHigh, foundLow, sample]
  · rw [bits, double, List.length_append, length_byteBits, length_byteBits]
  · have power : 2 ^ 8 = 256 := rfl
    rw [bits, sample, bitsNumber_append, bitsNumber_byteBits, bitsNumber_byteBits,
      length_byteBits, power]

include depth held inside listed in
theorem sampleSpelled_of_single (single : layout.bits ≠ 16) :
    layout.SampleSpelled data row place := by
  have used := sample_le_used listed
  have stride := layout.used_le
  obtain ⟨some, inByte⟩ := within_byte depth single place
  obtain ⟨value, found, same⟩ := getElem?_rowBytes held inside
    (show place * layout.bits / 8 < layout.stride by omega)
  have bits : layout.sampleBits data row place =
      ((byteBits value).drop (place * layout.bits % 8)).take layout.bits := by
    rw [← Array.getElem?_toList] at found
    have slice := slice_of_byte found (show place * layout.bits % 8 + layout.bits ≤ 8 by omega)
    rwa [Nat.div_add_mod] at slice
  refine ⟨?_, ?_, ?_⟩
  · simp only [sample?, SampleLayout.sample, single, if_false, inByte, if_true, found, same]
    rfl
  · rw [bits, List.length_take, List.length_drop, length_byteBits]
    omega
  · rw [bits, bitsNumber_slice value (by omega)]
    simp only [SampleLayout.sample, single, if_false, same]
    rfl

include depth held inside listed in
theorem sampleSpelled : layout.SampleSpelled data row place := by
  by_cases double : layout.bits = 16
  · exact sampleSpelled_of_double held inside listed double
  · exact sampleSpelled_of_single depth held inside listed double

end held

def spelledPixel (layout : SampleLayout) (data : Array UInt8) (row column : Nat) : List Nat :=
  (List.range layout.components).map fun component =>
    bitsNumber (layout.sampleBits data row (column * layout.components + component))

section held

variable (depth : layout.bits ∈ [1, 2, 4, 8, 16])
  (held : layout.stride * layout.height ≤ data.size)

include depth held

theorem pixel_eq_spelled {column : Nat} (inside : row < layout.height)
    (column_lt : column < layout.width) :
    layout.pixel data row column = layout.spelledPixel data row column := by
  refine List.map_congr_left fun component member => ?_
  have listed := place_lt column_lt (List.mem_range.mp member)
  exact (sampleSpelled depth held inside listed).spelled

/-- A reader that checks every place finds all pixels. -/
theorem pixels?_of_held : layout.pixels? data = some (layout.pixels data) := by
  have rows : ∀ row ∈ List.range layout.height,
      (layout.row? data row).bind (fun bytes =>
        (List.range layout.width).mapM fun column =>
          (List.range layout.components).mapM fun component =>
            layout.sample? bytes (column * layout.components + component)) =
        some ((List.range layout.width).map fun column => layout.pixel data row column) := by
    intro row member
    have inside := List.mem_range.mp member
    have whole : layout.row? data row = some (layout.rowBytes data row) :=
      if_pos (row_le_size held inside)
    rw [whole, Option.bind_some]
    refine mapM_of_some fun column columns => mapM_of_some fun component components => ?_
    have listed := place_lt (List.mem_range.mp columns) (List.mem_range.mp components)
    exact (sampleSpelled depth held inside listed).checked
  have read := mapM_of_some rows
  simp only [pixels?, Option.bind_eq_bind, read, Option.bind_some, pixels, List.flatMap_def]
  rfl

end held

/-- Bits of a row behind those that its samples use are not read. -/
theorem sampleBits_congr {other : Array UInt8}
    (same : (layout.rowBits data row).take layout.used = (layout.rowBits other row).take layout.used)
    (listed : place < layout.width * layout.components) :
    layout.sampleBits data row place = layout.sampleBits other row place := by
  have within := sample_le_used listed
  have cut (bits : List Bool) :
      (bits.drop (place * layout.bits)).take layout.bits =
        ((bits.take layout.used).drop (place * layout.bits)).take layout.bits := by
    rw [List.drop_take, List.take_take, Nat.min_eq_left (by omega)]
  rw [sampleBits, sampleBits, cut, same, ← cut]

end SampleLayout

end PdfElements
