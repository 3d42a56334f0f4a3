import Mathlib.Data.Prod.Lex
import PdfElements.Proofs.Arithmetic.Order

/-! The order of double precision. Its numbers lie on one line: the infinities outside, then by sign,
exponent and mantissa, with both zeros in one place. -/

set_option autoImplicit false

namespace PdfElements.Number

open Float.Model (UnpackedFloat)

/-- A place on the line of numbers, compared part by part. -/
abbrev Place := ℤ ×ₗ ℤ ×ₗ ℤ

def place? : UnpackedFloat → Option Place
  | .notANumber => none
  | .infinity .negative => some (toLex (-2, toLex (0, 0)))
  | .finite .negative mantissa exponent _ => some (toLex (-1, toLex (-exponent, -mantissa)))
  | .zero _ => some (toLex (0, toLex (0, 0)))
  | .finite .positive mantissa exponent _ => some (toLex (1, toLex (exponent, mantissa)))
  | .infinity .positive => some (toLex (2, toLex (0, 0)))

private theorem compare_neg (a b : ℤ) : compare (-a) (-b) = (compare a b).swap := by
  rw [← Std.OrientedOrd.eq_swap]
  cases order : compare b a <;> simp [compare_lt_iff_lt, compare_gt_iff_gt] at * <;> omega

private theorem compare_natCast (m n : ℕ) : compare (m : ℤ) (n : ℤ) = compare m n := by
  cases order : compare m n <;> simp [compare_lt_iff_lt, compare_gt_iff_gt] at * <;> omega

theorem compare_eq (first second : UnpackedFloat) :
    first.compare second =
      (place? first).bind fun place => (place? second).map (compare place) := by
  cases first with
  | notANumber => rfl
  | infinity sign | zero sign =>
      cases sign <;> cases second with
      | notANumber => rfl
      | infinity other | zero other | finite other => cases other <;> rfl
  | finite sign mantissa exponent =>
      cases second with
      | notANumber => cases sign <;> rfl
      | infinity other | zero other => cases sign <;> cases other <;> rfl
      | finite other mantissa' exponent' =>
          have natural := compare_natCast mantissa mantissa'
          have turned : ((compare exponent exponent').then (compare mantissa mantissa')).swap =
              (compare (-exponent) (-exponent')).then (compare (-(mantissa : ℤ)) (-mantissa')) := by
            rw [Ordering.swap_then, compare_neg, compare_neg, natural]
          cases sign <;> cases other
          case negative.negative => exact congrArg some turned
          case positive.positive =>
            exact congrArg (fun last => some ((compare exponent exponent').then last)) natural.symm
          all_goals rfl

section

variable {first second : Float}

theorem le_iff : first ≤ second ↔ ∃ place, place? first.toModel.unpack = some place ∧
    ∃ other, place? second.toModel.unpack = some other ∧ place ≤ other := by
  have compared : first ≤ second ↔
      (first.toModel.unpack.compare second.toModel.unpack).any Ordering.isLE = true :=
    decide_eq_true_iff
  rw [compared, compare_eq]
  cases place? first.toModel.unpack with
  | none => simp
  | some place =>
      cases place? second.toModel.unpack with
      | none => simp
      | some other => simp [Ordering.isLE_iff_ne_gt, compare_gt_iff_gt]

theorem lt_iff : first < second ↔ ∃ place, place? first.toModel.unpack = some place ∧
    ∃ other, place? second.toModel.unpack = some other ∧ place < other := by
  have compared : first < second ↔
      (first.toModel.unpack.compare second.toModel.unpack == some .lt) = true := decide_eq_true_iff
  rw [compared, compare_eq]
  cases place? first.toModel.unpack with
  | none => simp
  | some place =>
      cases place? second.toModel.unpack with
      | none => simp
      | some other => simp [compare_lt_iff_lt]

theorem isNumber_iff : Scalar.isNumber first ↔ (place? first.toModel.unpack).isSome := by
  have compared : Scalar.isNumber first = 
      (first.toModel.unpack.compare first.toModel.unpack == some .eq) := rfl
  rw [compared, compare_eq]
  cases place? first.toModel.unpack <;> simp

end

instance : Scalar.Ordered Float where
  le_trans {a b c} first second := by
    obtain ⟨place, found, middle, between, le⟩ := le_iff.mp first
    obtain ⟨_, same, other, last, further⟩ := le_iff.mp second
    obtain rfl := Option.some.inj (between.symm.trans same)
    exact le_iff.mpr ⟨place, found, other, last, le.trans further⟩
  le_total {a b} first second := by
    obtain ⟨place, found⟩ := Option.isSome_iff_exists.mp (isNumber_iff.mp first)
    obtain ⟨other, last⟩ := Option.isSome_iff_exists.mp (isNumber_iff.mp second)
    exact (le_total place other).imp (fun le => le_iff.mpr ⟨place, found, other, last, le⟩)
      (fun ge => le_iff.mpr ⟨other, last, place, found, ge⟩)
  isNumber_of_le {a b} le := by
    obtain ⟨place, found, other, last, _⟩ := le_iff.mp le
    exact ⟨isNumber_iff.mpr (found ▸ rfl), isNumber_iff.mpr (last ▸ rfl)⟩
  lt_iff {a b} := by
    rw [lt_iff, le_iff, le_iff]
    cases place? a.toModel.unpack <;> cases place? b.toModel.unpack <;> simp
    exact fun less => less.le

/-! ### Infinities, integers and differences -/

private theorem within_infinities {number : UnpackedFloat} {place : Place}
    (found : place? number = some place) :
    toLex (-2, toLex (0, 0)) ≤ place ∧ place ≤ toLex (2, toLex (0, 0)) := by
  cases number with
  | notANumber => cases found
  | infinity sign | zero sign | finite sign =>
      cases sign <;> cases found <;> simp [Prod.Lex.toLex_le_toLex]

/-- Only a full exponent with a mantissa is no number. -/
private theorem bits_of_notANumber {format : Float.Model.Format} {bits : BitVec format.numBits}
    (unpacked : UnpackedFloat.unpack format bits = .notANumber) :
    UnpackedFloat.unpackExponent bits = -1#_ ∧ UnpackedFloat.unpackMantissa bits ≠ 0#_ := by
  by_cases full : UnpackedFloat.unpackExponent bits = -1#_
  · refine ⟨full, fun noDigits => ?_⟩
    have infinite : UnpackedFloat.unpack format bits = .infinity _ :=
      (if_pos full).trans (if_pos noDigits)
    cases infinite.symm.trans unpacked
  by_cases subnormal : UnpackedFloat.unpackExponent bits = 0#_
  · by_cases noDigits : UnpackedFloat.unpackMantissa bits = 0#_
    · have zero : UnpackedFloat.unpack format bits = .zero _ :=
        (if_neg full).trans ((if_pos subnormal).trans (dif_pos noDigits))
      cases zero.symm.trans unpacked
    · have finite : UnpackedFloat.unpack format bits = .finite _ _ _ _ :=
        (if_neg full).trans ((if_pos subnormal).trans (dif_neg noDigits))
      cases finite.symm.trans unpacked
  · have finite : UnpackedFloat.unpack format bits = .finite _ _ _ _ :=
      (if_neg full).trans (if_neg subnormal)
    cases finite.symm.trans unpacked

private theorem isSome_place?_iff {number : UnpackedFloat} :
    (place? number).isSome ↔ number ≠ .notANumber := by
  cases number with
  | notANumber => exact iff_of_false Bool.false_ne_true (absurd rfl)
  | infinity sign | zero sign | finite sign => cases sign <;> exact iff_of_true rfl nofun

private theorem pack_finite {sign : UnpackedFloat.Sign} {digits : ℕ} {power : ℤ}
    {positive : 0 < digits} :
    let bits := UnpackedFloat.pack .binary64 (.finite sign digits power positive)
    bits = UnpackedFloat.packedInfinity .binary64 sign ∨ ∃ exponent mantissa,
      exponent ≠ -1#_ ∧ bits = UnpackedFloat.packComponents .binary64 sign exponent mantissa := by
  intro bits
  let exponent := (power + Float.Model.Format.binary64.exponentBias + 52).toNat
  have packed : bits = if 2 ^ 11 ≤ exponent + 1 then UnpackedFloat.packedInfinity .binary64 sign
      else if digits.log2 + 1 = Float.Model.Format.binary64.mantissaBits then
        UnpackedFloat.packComponents .binary64 sign (.ofNat 11 exponent) (.ofNat 52 digits)
      else UnpackedFloat.packComponents .binary64 sign 0#11 (.ofNat 52 digits) := rfl
  rw [packed]
  by_cases tooLarge : 2 ^ 11 ≤ exponent + 1
  · exact .inl (if_pos tooLarge)
  rw [if_neg tooLarge]
  refine .inr ?_
  split
  · refine ⟨_, _, fun full => ?_, rfl⟩
    have wrapped : exponent % 2 ^ 11 = 2 ^ 11 - 1 :=
      (BitVec.toNat_ofNat ..).symm.trans (congrArg BitVec.toNat full)
    rw [Nat.mod_eq_of_lt (by omega)] at wrapped
    omega
  · exact ⟨_, _, by decide, rfl⟩

theorem isSome_place?_pack {number : UnpackedFloat} (isNumber : (place? number).isSome) :
    (place? (Float.Model.pack number).unpack).isSome := by
  rw [isSome_place?_iff] at isNumber ⊢
  intro unpacked
  obtain ⟨exponent, mantissa⟩ := bits_of_notANumber unpacked
  cases number with
  | notANumber => exact isNumber rfl
  | infinity sign | zero sign =>
      exact mantissa UnpackedFloat.unpackMantissa_packComponents
  | finite sign digits power =>
      have packed : (Float.Model.pack (.finite sign digits power ‹_›)).toBits.toBitVec =
        UnpackedFloat.pack .binary64 (.finite sign digits power ‹_›) := rfl
      rw [packed] at exponent mantissa
      rcases pack_finite with infinite | ⟨_, _, notFull, components⟩
      · rw [infinite] at mantissa
        exact mantissa UnpackedFloat.unpackMantissa_packComponents
      · rw [components, UnpackedFloat.unpackExponent_packComponents] at exponent
        exact notFull exponent

private theorem isNumber_ofModel {number : UnpackedFloat} (isNumber : number ≠ .notANumber) :
    Scalar.isNumber (Float.ofModel (.pack number)) :=
  isNumber_iff.mpr (isSome_place?_pack (isSome_place?_iff.mpr isNumber))

private theorem round_isNumber {format : Float.Model.Format} {sign : UnpackedFloat.Sign}
    {mantissa : ℕ} {exponent : ℤ} {accuracy : UnpackedFloat.Accuracy} :
    UnpackedFloat.roundWithAccuracy format sign mantissa exponent accuracy ≠ .notANumber := by
  let shifted := UnpackedFloat.shiftToTargetExponent format mantissa exponent accuracy
  let last := UnpackedFloat.shiftToTargetExponent format shifted.1.roundedMantissa shifted.2 .exact
  intro rounded
  by_cases noDigits : last.1.mantissa = 0
  · have zero : UnpackedFloat.roundWithAccuracy format sign mantissa exponent accuracy = .zero _ :=
      dif_pos noDigits
    cases zero.symm.trans rounded
  · have finite : UnpackedFloat.roundWithAccuracy format sign mantissa exponent accuracy =
        .finite _ _ _ _ := dif_neg noDigits
    cases finite.symm.trans rounded

private theorem normalize_isNumber {format : Float.Model.Format} (mantissa exponent : ℤ)
    (zeroSign : UnpackedFloat.Sign) :
    UnpackedFloat.normalize format mantissa exponent zeroSign ≠ .notANumber := by
  unfold UnpackedFloat.normalize
  split
  · exact round_isNumber
  · simp
  · exact round_isNumber

/-- A product with a finite factor other than zero is a number where the other factor is one. -/
private theorem mul_isNumber {format : Float.Model.Format} {factor : UnpackedFloat}
    {sign : UnpackedFloat.Sign} {mantissa : ℕ} {exponent : ℤ} {positive : 0 < mantissa}
    (isNumber : factor ≠ .notANumber) :
    UnpackedFloat.mul format factor (.finite sign mantissa exponent positive) ≠ .notANumber := by
  cases factor with
  | notANumber => exact absurd rfl isNumber
  | infinity | zero => exact nofun
  | finite => exact round_isNumber

private theorem ofScientific_isNumber {format : Float.Model.Format} (digits : ℕ) (power : ℤ) :
    UnpackedFloat.ofScientific format digits power ≠ .notANumber := by
  unfold UnpackedFloat.ofScientific
  by_cases noDigits : digits = 0
  · rw [dif_pos noDigits]
    exact nofun
  rw [dif_neg noDigits]
  by_cases tooLarge : power > 2 ^ format.exponentBits
  · rw [if_pos tooLarge]
    exact nofun
  rw [if_neg tooLarge]
  by_cases tooSmall : power < -(2 ^ format.exponentBits + digits.log2)
  · rw [if_pos tooSmall]
    exact nofun
  rw [if_neg tooSmall]
  by_cases whole : 0 ≤ power
  · rw [if_pos whole]
    exact round_isNumber
  · rw [if_neg whole]
    exact round_isNumber

theorem isNumber_ofNat (value : ℕ) : Scalar.isNumber (Float.ofNat value) := by
  unfold Float.ofNat OfScientific.ofScientific instOfScientificFloat Float.ofScientific
  dsimp only
  split
  · have one : Float.exactlyRepresentablePowersOfTen[0].toModel.unpack =
        .finite .positive (2 ^ 52) (-52) (by decide) := by
      rfl
    have integer : (UnpackedFloat.ofUInt64 Float.Model.Format.binary64 value.toUInt64) ≠
        .notANumber := normalize_isNumber _ _ _
    have packed := isSome_place?_iff.mp (isSome_place?_pack (isSome_place?_iff.mpr integer))
    refine isNumber_ofModel ?_
    rw [one]
    exact mul_isNumber packed
  · exact isNumber_ofModel (ofScientific_isNumber _ _)

theorem isNumber_neg {value : Float} (number : Scalar.isNumber value) :
    Scalar.isNumber (-value) := by
  have unpacked := isSome_place?_iff.mp (isNumber_iff.mp number)
  refine isNumber_ofModel ?_
  cases unpack : value.toModel.unpack with
  | notANumber => exact absurd unpack unpacked
  | infinity | zero | finite => exact nofun

theorem isNumber_ofInt (value : ℤ) : Scalar.isNumber (Float.ofInt value) := by
  cases value with
  | ofNat value => exact isNumber_ofNat value
  | negSucc value => exact isNumber_neg (isNumber_ofNat value.succ)

private theorem place?_pack_notANumber : place? (Float.Model.pack .notANumber).unpack = none := by
  decide +kernel

theorem isNumber_of_isNumber_sub {first second : Float} (number : Scalar.isNumber (first - second)) :
    Scalar.isNumber first ∧ Scalar.isNumber second := by
  rw [isNumber_iff] at number
  change (place? (Float.Model.pack
    (UnpackedFloat.sub _ first.toModel.unpack second.toModel.unpack)).unpack).isSome at number
  rw [isNumber_iff, isNumber_iff, isSome_place?_iff, isSome_place?_iff]
  have nothing : ¬(place? (Float.Model.pack .notANumber).unpack).isSome := by
    rw [place?_pack_notANumber]
    exact Bool.false_ne_true
  constructor <;> intro unpacked <;> rw [unpacked] at number
  · exact nothing number
  · cases other : first.toModel.unpack <;> rw [other] at number <;> exact nothing number

instance : Scalar.Limited Float where
  le_infinity {a} number := by
    obtain ⟨place, found⟩ := Option.isSome_iff_exists.mp (isNumber_iff.mp number)
    exact le_iff.mpr ⟨place, found, _, by decide +kernel, (within_infinities found).2⟩
  neg_infinity_le {a} number := by
    obtain ⟨place, found⟩ := Option.isSome_iff_exists.mp (isNumber_iff.mp number)
    exact le_iff.mpr ⟨_, by decide +kernel, place, found, (within_infinities found).1⟩
  isNumber_ofInt := isNumber_ofInt
  isNumber_of_sub := isNumber_of_isNumber_sub

end PdfElements.Number
