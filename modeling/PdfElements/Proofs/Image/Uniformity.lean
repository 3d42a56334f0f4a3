import PdfElements.Image.Appearance
import PdfElements.Proofs.Image.Samples

/-! When an image has one color. Data that are not filtered are unknown only if they are too short
for the samples. Otherwise the colors of the pixels decide, which depend on nothing but the bits
that the samples take up. -/

set_option autoImplicit false

namespace PdfElements

namespace Color

variable {colors : List Color} {color : Color}

theorem common?_eq_some_iff (some : colors ≠ []) :
    common? colors = .some color ↔ ∀ other ∈ colors, other = color := by
  cases colors with
  | nil => exact absurd rfl some
  | cons first rest =>
      simp only [common?, List.all_eq_true, beq_iff_eq, List.forall_mem_cons]
      constructor
      · intro found
        split at found
        · next same =>
            cases found
            exact ⟨rfl, same⟩
        · cases found
      · rintro ⟨rfl, same⟩
        exact if_pos same

theorem common?_eq_none_iff (some : colors ≠ []) :
    common? colors = none ↔ ¬ ∃ color, ∀ other ∈ colors, other = color := by
  rw [Option.eq_none_iff_forall_ne_some, not_exists]
  exact forall_congr' fun color => not_congr (common?_eq_some_iff some)

end Color

namespace Appearance

section colors

variable {colors : List Color} (some : colors ≠ [])

theorem ofColors_ne_unknown (colors : List Color) (fault : ImageFault) :
    ofColors colors ≠ unknown fault := by
  unfold ofColors
  split <;> exact nofun

include some

theorem ofColors_eq_uniform_iff {color : Color} :
    ofColors colors = uniform color ↔ ∀ other ∈ colors, other = color := by
  rw [← Color.common?_eq_some_iff some]
  unfold ofColors
  split <;> simp_all

theorem ofColors_eq_varied_iff :
    ofColors colors = varied ↔ ¬ ∃ color, ∀ other ∈ colors, other = color := by
  rw [← Color.common?_eq_none_iff some]
  unfold ofColors
  split <;> simp_all

end colors

/-- The color of a pixel in a space, its samples spread over the ranges. -/
def pixelColor (space : ColorSpace) (bits : Nat) (ranges? : Option (List Float32))
    (samples : List Nat) : Color :=
  let indices := match space with | .indexed _ _ _ => true | _ => false
  space.toColor (values ranges? indices (Number.singleOfInt (Nat.pow 2 bits - 1 : Nat)) samples)

end Appearance

namespace SampleLayout

variable {layout : SampleLayout} {data other : Array UInt8}

theorem forall_mem_pixels {property : List Nat → Prop} :
    (∀ pixel ∈ layout.pixels data, property pixel) ↔
      ∀ row < layout.height, ∀ column < layout.width, property (layout.pixel data row column) := by
  simp only [pixels, List.mem_flatMap, List.mem_map, List.mem_range]
  constructor
  · intro all row inside column within
    exact all _ ⟨row, inside, column, within, rfl⟩
  · rintro all _ ⟨row, inside, column, within, rfl⟩
    exact all row inside column within

theorem pixels_ne_nil (wide : 1 ≤ layout.width) (high : 1 ≤ layout.height) :
    layout.pixels data ≠ [] := by
  intro nothing
  have none := forall_mem_pixels.mp (fun pixel member =>
    absurd member (nothing ▸ List.not_mem_nil) : ∀ pixel ∈ layout.pixels data, False)
  exact none 0 high 0 wide

theorem pixels_congr (depth : layout.bits ∈ [1, 2, 4, 8, 16])
    (held : layout.stride * layout.height ≤ data.size)
    (otherHeld : layout.stride * layout.height ≤ other.size)
    (same : ∀ row < layout.height,
      (layout.rowBits data row).take layout.used = (layout.rowBits other row).take layout.used) :
    layout.pixels data = layout.pixels other := by
  refine List.flatMap_congr fun row rows => List.map_congr_left fun column columns => ?_
  have inside := List.mem_range.mp rows
  have within := List.mem_range.mp columns
  rw [pixel_eq_spelled depth held inside within, pixel_eq_spelled depth otherHeld inside within]
  refine List.map_congr_left fun component components => ?_
  rw [sampleBits_congr (same row inside) (place_lt within (List.mem_range.mp components))]

end SampleLayout

namespace Appearance

section samples

variable {space : ColorSpace} {layout : SampleLayout} {ranges? : Option (List Float32)}
  {data : Array UInt8}

theorem ofSamples_of_short (short : data.size < layout.stride * layout.height) :
    ofSamples space layout ranges? data = unknown (.layout layout.bits) := by
  have refused : (!layout.fits data.size) = true := by
    rw [Bool.not_eq_true', Bool.eq_false_iff]
    intro fits
    have held := (SampleLayout.fits_iff.mp fits).2.2
    omega
  exact if_pos refused

theorem ofSamples_of_held (depth : layout.bits ∈ [1, 2, 4, 8, 16]) (some : 1 ≤ layout.components)
    (held : layout.stride * layout.height ≤ data.size) :
    ofSamples space layout ranges? data =
      ofColors ((layout.pixels data).map (pixelColor space layout.bits ranges?)) := by
  have accepted : ¬ (!layout.fits data.size) = true := by
    rw [SampleLayout.fits_iff.mpr ⟨depth, some, held⟩]
    exact Bool.false_ne_true
  exact if_neg accepted

end samples

section unfiltered

variable {store : ObjectStore} {resources entries : Dictionary} {space : ColorSpace} {fill : Color}

/-- The samples of an image in a space. -/
def sampleLayout (store : ObjectStore) (entries : Dictionary) (space : ColorSpace) : SampleLayout :=
  let metadata := ImageMetadata.read store entries
  ⟨metadata.width, metadata.height, space.components, metadata.bits?.getD 8⟩

/-- The color of a pixel, read from the bits of its samples. -/
def spelledColor (store : ObjectStore) (entries : Dictionary) (space : ColorSpace)
    (data : List UInt8) (row column : Nat) : Color :=
  let layout := sampleLayout store entries space
  pixelColor space layout.bits (ranges? store entries)
    (layout.spelledPixel data.toArray row column)

variable (plain : entries.find? "Filter" = none)
  (unmasked : (ImageMetadata.read store entries).isMask = false)
  (wide : 1 ≤ (ImageMetadata.read store entries).width)
  (high : 1 ≤ (ImageMetadata.read store entries).height)
  (resolved : Appearance.space store resources entries = some (.ok space))

include plain unmasked wide high resolved

theorem ofImage_unfiltered (data : List UInt8) :
    ofImage store resources ⟨entries, data⟩ fill =
      some (ofSamples space (sampleLayout store entries space) (ranges? store entries)
        data.toArray) := by
  have filter : (ImageMetadata.read store entries).filter? = none := by
    simp only [ImageMetadata.read, ImageMetadata.filterNames, ObjectStore.find?, plain]
    rfl
  have pixels : (decide ((ImageMetadata.read store entries).width = 0) ||
      decide ((ImageMetadata.read store entries).height = 0)) = false := by
    simp only [Bool.or_eq_false_iff, decide_eq_false_iff_not]
    omega
  have decoded : Stream.decode ⟨entries, data⟩ = .ok data := by
    simp [Stream.decode, Stream.isFiltered, plain]
  simp only [ofImage, pixels, filter, ofStream, decoded, unmasked, resolved, if_false,
    Bool.false_eq_true]
  rfl

/-- The appearance of an image that is neither filtered nor a stencil. It is unknown exactly if the
data are too short for rows that each begin at a byte. Otherwise a reader that checks every place
reads all samples; each is the number that its bits of the row spell, the highest first; and the
image has one color exactly if all of its pixels have. Bits behind the samples of a row, and bytes
behind the last row, do not matter. -/
theorem unfiltered_image_appearance (some : 1 ≤ space.components)
    (depth : (sampleLayout store entries space).bits ∈ [1, 2, 4, 8, 16]) (data : List UInt8) :
    let layout := sampleLayout store entries space
    let appearance (data : List UInt8) := ofImage store resources ⟨entries, data⟩ fill
    layout.stride = (layout.width * layout.components * layout.bits) ⌈/⌉ 8 ∧
      ((∃ fault, appearance data = .some (unknown fault)) ↔
        data.length < layout.stride * layout.height) ∧
      (layout.stride * layout.height ≤ data.length →
        layout.pixels? data.toArray = .some (layout.pixels data.toArray) ∧
        (∀ row < layout.height, ∀ column < layout.width, ∀ component < layout.components,
          layout.SampleSpelled data.toArray row (column * layout.components + component)) ∧
        (∀ color, appearance data = .some (uniform color) ↔
          ∀ row < layout.height, ∀ column < layout.width,
            spelledColor store entries space data row column = color) ∧
        (appearance data = .some varied ↔
          ¬ ∃ color, ∀ row < layout.height, ∀ column < layout.width,
            spelledColor store entries space data row column = color) ∧
        ∀ other : List UInt8, layout.stride * layout.height ≤ other.length →
          (∀ row < layout.height, (layout.rowBits other.toArray row).take layout.used =
            (layout.rowBits data.toArray row).take layout.used) →
          appearance other = appearance data) := by
  intro layout appearance
  have sampled (data : List UInt8) : appearance data = _ :=
    ofImage_unfiltered plain unmasked wide high resolved data
  have painted {data : List UInt8} (held : layout.stride * layout.height ≤ data.length) :
      appearance data = _ :=
    (sampled data).trans (congrArg _ (ofSamples_of_held depth some held))
  refine ⟨layout.stride_eq_ceilDiv, ?_, fun held => ?_⟩
  · constructor
    · rintro ⟨fault, unknown⟩
      refine Nat.lt_of_not_le fun held => ?_
      exact ofColors_ne_unknown _ fault (Option.some.inj ((painted held).symm.trans unknown))
    · intro short
      exact ⟨_, (sampled data).trans (congrArg _ (ofSamples_of_short short))⟩
  · have colored (color : Color) :
        (∀ other ∈ (layout.pixels data.toArray).map
            (pixelColor space layout.bits (ranges? store entries)), other = color) ↔
          ∀ row < layout.height, ∀ column < layout.width,
            spelledColor store entries space data row column = color := by
      rw [List.forall_mem_map, SampleLayout.forall_mem_pixels]
      refine forall₂_congr fun row inside => forall₂_congr fun column within => ?_
      rw [SampleLayout.pixel_eq_spelled depth held inside within]
      rfl
    have pixels : (layout.pixels data.toArray).map
        (pixelColor space layout.bits (ranges? store entries)) ≠ [] :=
      fun nothing => SampleLayout.pixels_ne_nil wide high (List.map_eq_nil_iff.mp nothing)
    refine ⟨SampleLayout.pixels?_of_held depth held, ?_, ?_, ?_, ?_⟩
    · intro row inside column within component listed
      exact SampleLayout.sampleSpelled depth held inside (SampleLayout.place_lt within listed)
    · intro color
      rw [painted held, Option.some_inj, ofColors_eq_uniform_iff pixels, colored]
    · rw [painted held, Option.some_inj, ofColors_eq_varied_iff pixels]
      exact not_congr (exists_congr colored)
    · intro other otherHeld same
      rw [painted held, painted otherHeld, SampleLayout.pixels_congr depth otherHeld held same]

end unfiltered

/-- Three pixels of one bit and five bits of padding in each of two rows, and a byte too many. -/
theorem padding_of_rows_does_not_matter :
    let store : ObjectStore := ⟨[], []⟩
    let entries : Dictionary := [(Text.encodeUtf8 "Width", .integer 3),
      (Text.encodeUtf8 "Height", .integer 2), (Text.encodeUtf8 "BitsPerComponent", .integer 1),
      (Text.encodeUtf8 "ColorSpace", .name (Text.encodeUtf8 "DeviceGray"))]
    let appearance (data : List UInt8) := ofImage store [] ⟨entries, data⟩ .black
    (∃ fault, appearance [0xE0] = some (unknown fault)) ∧
      appearance [0xFF, 0xE5, 0x2A] = appearance [0xE0, 0xE0] ∧
      ∀ color, appearance [0xE0, 0xE0] = some (uniform color) ↔
        ∀ row < 2, ∀ column < 3,
          spelledColor store entries .gray [0xE0, 0xE0] row column = color := by
  intro store entries appearance
  have plain : entries.find? "Filter" = none := by decide +kernel
  have unmasked : (ImageMetadata.read store entries).isMask = false := by decide +kernel
  have wide : 1 ≤ (ImageMetadata.read store entries).width := by decide +kernel
  have high : 1 ≤ (ImageMetadata.read store entries).height := by decide +kernel
  have resolved : Appearance.space store [] entries = some (.ok .gray) := rfl
  have depth : (sampleLayout store entries .gray).bits ∈ [1, 2, 4, 8, 16] := by decide +kernel
  have settled := @unfiltered_image_appearance store [] entries .gray .black plain unmasked wide
    high resolved (by decide) depth
  obtain ⟨_, _, held⟩ := settled [0xE0, 0xE0]
  obtain ⟨_, _, same, _, padded⟩ := held (by decide +kernel)
  exact ⟨(settled [0xE0]).2.1.mpr (by decide +kernel),
    padded [0xFF, 0xE5, 0x2A] (by decide +kernel) (by decide +kernel), same⟩

end Appearance

end PdfElements
