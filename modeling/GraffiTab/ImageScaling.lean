/-
This file asks which size a scaled image gets.

An image that is larger than requested is scaled to the requested width, and its height is
rounded to keep the aspect ratio. If that height is still over the request, the height is the
requested one and the width is rounded instead. The computations with floating point numbers are
read as exact ones. Nothing keeps a side from being rounded to zero: it is, as soon as it falls
under half a pixel.
-/

import Mathlib.Algebra.Order.Round
import Mathlib.Data.Rat.Floor
import Mathlib.Tactic.Linarith
import Mathlib.Tactic.FieldSimp
import GraffiTab.Results

namespace GraffiTab

/-! ### The size -/

/-- The cast of a `double` to an `int`, which drops the fraction. -/
def castToInt (value : Rat) : Int := value.num.tdiv value.den

structure ImageSize where
  width : Int
  height : Int
  deriving DecidableEq

/-- The message of the exception that `scaleImage` throws. -/
def invalidImageScaling (output source requested : ImageSize) : Throwable :=
  .illegalStateException
    ("Invalid image scaling -- width or height are over the requested values: outputWidth: " ++
      toString output.width ++ ", outputHeight: " ++ toString output.height ++
      ", sourceWidth: " ++ toString source.width ++ ", sourceHeight: " ++
      toString source.height ++ ", requestedWidth: " ++ toString requested.width ++
      ", requestedHeight: " ++ toString requested.height)

/-- The size that `ImageUtilsService.scaleImage` computes. -/
def scaledSize (source : ImageSize) (requestedWidth requestedHeight : Option Int) :
    Except Throwable ImageSize :=
  let aspectRatio : Rat := source.height / source.width
  let requestedWidth := requestedWidth.getD source.width
  let requestedHeight := requestedHeight.getD source.height
  if source.width > requestedWidth ∨ source.height > requestedHeight then
    let outputWidth := if source.width > requestedWidth then requestedWidth else source.width
    let outputHeight := castToInt (aspectRatio * outputWidth + 1 / 2)
    let output : ImageSize :=
      if outputHeight > requestedHeight then
        let fixedHeight :=
          if source.height > requestedHeight then requestedHeight else source.height
        ⟨castToInt (fixedHeight / aspectRatio + 1 / 2), fixedHeight⟩
      else ⟨outputWidth, outputHeight⟩
    let output : ImageSize :=
      if output.width > requestedWidth then { output with width := requestedWidth } else output
    if output.width > requestedWidth ∨ output.height > requestedHeight then
      .error (invalidImageScaling output source ⟨requestedWidth, requestedHeight⟩)
    else .ok output
  else .ok source

/-! ### What the size should be -/

/-- The size fits into the requested one. -/
def ImageSize.Fits (size requested : ImageSize) : Prop :=
  size.width ≤ requested.width ∧ size.height ≤ requested.height

/-- No side is empty, or larger than that of the source or of the request. -/
structure ImageSize.Within (output source requested : ImageSize) : Prop where
  width_pos : 1 ≤ output.width
  width_le : output.width ≤ min source.width requested.width
  height_pos : 1 ≤ output.height
  height_le : output.height ≤ min source.height requested.height

/-- One side is as large as it may be, and the other one keeps the aspect ratio up to rounding. -/
def ImageSize.Proportional (output source requested : ImageSize) : Prop :=
  (output.width = min source.width requested.width ∧
      |(output.height : Rat) - source.height * output.width / source.width| ≤ 1 / 2) ∨
    (output.height = min source.height requested.height ∧
      |(output.width : Rat) - source.width * output.height / source.height| ≤ 1 / 2)

/-- The computation returns a size within the bounds: that of the source when it fits, and otherwise
a proportional one. -/
structure ScalesRightly (source requested : ImageSize) (output : ImageSize) : Prop where
  returned : scaledSize source (some requested.width) (some requested.height) = .ok output
  within : output.Within source requested
  unchanged : source.Fits requested → output = source
  proportional : ¬ source.Fits requested → output.Proportional source requested

/-- Neither side of the source is more than twice as long as the other one times its requested
length. -/
def ImageSize.KeepsHalfPixel (source requested : ImageSize) : Prop :=
  source.width ≤ 2 * source.height * requested.width ∧
    source.height ≤ 2 * source.width * requested.height

/-! ### Rounding -/

theorem castToInt_eq_floor {value : Rat} (nonnegative : 0 ≤ value) : castToInt value = ⌊value⌋ := by
  rw [castToInt, Rat.floor_def', Int.tdiv_eq_ediv_of_nonneg (Rat.num_nonneg.mpr nonnegative)]

/-- Adding a half before the cast rounds. -/
theorem castToInt_add_half {value : Rat} (nonnegative : 0 ≤ value) :
    castToInt (value + 1 / 2) = round value := by
  rw [castToInt_eq_floor (by linarith), round_eq]

/-- A number is rounded to at least one from a half on. -/
theorem one_le_round_iff {value : Rat} : 1 ≤ round value ↔ 1 / 2 ≤ value := by
  rw [round_eq, Int.le_floor, Int.cast_one]
  constructor <;> intro atLeast <;> linarith

theorem round_le_of_le {value : Rat} {bound : Int} (atMost : value ≤ bound) :
    round value ≤ bound := by
  rw [round_eq, ← Int.lt_add_one_iff, Int.floor_lt]
  push_cast
  linarith

/-! ### The two ways to scale -/

/-- Both sides are at least one pixel long. -/
structure ImageSize.NonEmpty (size : ImageSize) : Prop where
  width_pos : 1 ≤ size.width
  height_pos : 1 ≤ size.height

/-- The height that keeps the aspect ratio at a width. -/
def ImageSize.heightAt (source : ImageSize) (width : Int) : Rat :=
  source.height / source.width * width

/-- The width that keeps the aspect ratio at a height. -/
def ImageSize.widthAt (source : ImageSize) (height : Int) : Rat :=
  height / (source.height / source.width)

section Scaling

variable {source requested : ImageSize}

theorem ImageSize.NonEmpty.ratio_pos (positive : source.NonEmpty) :
    (0 : Rat) < source.height / source.width :=
  div_pos (Int.cast_pos.mpr positive.height_pos) (Int.cast_pos.mpr positive.width_pos)

theorem ImageSize.NonEmpty.heightAt_nonneg (positive : source.NonEmpty) {width : Int}
    (nonnegative : 0 ≤ width) : 0 ≤ source.heightAt width :=
  mul_nonneg positive.ratio_pos.le (Int.cast_nonneg nonnegative)

theorem ImageSize.NonEmpty.widthAt_nonneg (positive : source.NonEmpty) {height : Int}
    (nonnegative : 0 ≤ height) : 0 ≤ source.widthAt height :=
  div_nonneg (Int.cast_nonneg nonnegative) positive.ratio_pos.le

/-- A width that is not above that of the source has no height above that of the source. -/
theorem ImageSize.NonEmpty.round_heightAt_le (positive : source.NonEmpty) {width : Int}
    (atMost : width ≤ source.width) : round (source.heightAt width) ≤ source.height := by
  refine round_le_of_le ?_
  have widthPos : (0 : Rat) < source.width := Int.cast_pos.mpr positive.width_pos
  have heightPos : (0 : Rat) < source.height := Int.cast_pos.mpr positive.height_pos
  rw [ImageSize.heightAt, div_mul_eq_mul_div, div_le_iff₀ widthPos]
  exact mul_le_mul_of_nonneg_left (Int.cast_le.mpr atMost) heightPos.le

/-- When the height at a width is rounded to more than requested, the width at the requested height
is smaller. -/
theorem ImageSize.NonEmpty.round_widthAt_le (positive : source.NonEmpty) {width height : Int}
    (exceeds : height < round (source.heightAt width)) : round (source.widthAt height) ≤ width := by
  refine round_le_of_le ?_
  have reached : (height + 1 : Rat) ≤ source.heightAt width + 1 / 2 := by
    rw [round_eq, Int.lt_iff_add_one_le, Int.le_floor] at exceeds
    exact_mod_cast exceeds
  rw [ImageSize.widthAt, div_le_iff₀ positive.ratio_pos, mul_comm]
  rw [ImageSize.heightAt] at reached
  linarith

/-- The width to which the image is fixed first. -/
theorem min_eq_if (source requested : Int) :
    (if source > requested then requested else source) = min source requested := by
  split <;> omega

theorem scaledSize_fits (fits : source.Fits requested) :
    scaledSize source (some requested.width) (some requested.height) = .ok source := by
  unfold scaledSize
  simp only [Option.getD_some]
  rw [if_neg]
  rintro (wide | high)
  · exact absurd fits.1 (not_le.mpr wide)
  · exact absurd fits.2 (not_le.mpr high)

/-- The height at the fixed width is not over the request. -/
theorem scaledSize_fixedWidth (sourcePositive : source.NonEmpty)
    (requestedPositive : requested.NonEmpty) (larger : ¬ source.Fits requested)
    (low : round (source.heightAt (min source.width requested.width)) ≤ requested.height) :
    scaledSize source (some requested.width) (some requested.height) =
      .ok ⟨min source.width requested.width,
        round (source.heightAt (min source.width requested.width))⟩ := by
  have fixed : 0 ≤ min source.width requested.width := by
    have := sourcePositive.width_pos
    have := requestedPositive.width_pos
    omega
  have rounded := castToInt_add_half (sourcePositive.heightAt_nonneg fixed)
  have narrow : ¬ min source.width requested.width > requested.width :=
    not_lt.mpr (min_le_right _ _)
  rw [ImageSize.Fits, not_and_or, not_le, not_le] at larger
  unfold scaledSize
  simp only [Option.getD_some, if_pos larger, min_eq_if]
  rw [ImageSize.heightAt] at rounded low ⊢
  simp only [rounded, if_neg (not_lt.mpr low), if_neg narrow]
  exact if_neg (not_or.mpr ⟨narrow, not_lt.mpr low⟩)

/-- The height at the fixed width is over the request, so the height is fixed instead. -/
theorem scaledSize_fixedHeight (sourcePositive : source.NonEmpty)
    (requestedPositive : requested.NonEmpty) (larger : ¬ source.Fits requested)
    (high : requested.height < round (source.heightAt (min source.width requested.width))) :
    scaledSize source (some requested.width) (some requested.height) =
      .ok ⟨round (source.widthAt requested.height), requested.height⟩ := by
  have fixed : 0 ≤ min source.width requested.width := by
    have := sourcePositive.width_pos
    have := requestedPositive.width_pos
    omega
  have roundedHeight := castToInt_add_half (sourcePositive.heightAt_nonneg fixed)
  have roundedWidth := castToInt_add_half
    (sourcePositive.widthAt_nonneg (Int.le_of_lt requestedPositive.height_pos))
  have overSource : requested.height < source.height :=
    high.trans_le (sourcePositive.round_heightAt_le (min_le_left _ _))
  have narrow : ¬ round (source.widthAt requested.height) > requested.width :=
    not_lt.mpr ((sourcePositive.round_widthAt_le high).trans (min_le_right _ _))
  rw [ImageSize.Fits, not_and_or, not_le, not_le] at larger
  unfold scaledSize
  simp only [Option.getD_some, if_pos larger, min_eq_if]
  rw [ImageSize.heightAt] at roundedHeight high
  rw [ImageSize.widthAt] at roundedWidth narrow ⊢
  simp only [roundedHeight, if_pos high, min_eq_right overSource.le, roundedWidth, if_neg narrow]
  exact if_neg (not_or.mpr ⟨narrow, lt_irrefl _⟩)

/-! ### Half a pixel -/

theorem ImageSize.heightAt_eq (source : ImageSize) (width : Int) :
    source.heightAt width = source.height * width / source.width :=
  div_mul_eq_mul_div _ _ _

theorem ImageSize.widthAt_eq (source : ImageSize) (height : Int) :
    source.widthAt height = source.width * height / source.height := by
  rw [ImageSize.widthAt, div_div_eq_mul_div, mul_comm]

theorem ImageSize.NonEmpty.one_le_round_heightAt_iff (positive : source.NonEmpty) {width : Int} :
    1 ≤ round (source.heightAt width) ↔ source.width ≤ 2 * source.height * width := by
  have widthPos : (0 : Rat) < source.width := Int.cast_pos.mpr positive.width_pos
  rw [one_le_round_iff, ImageSize.heightAt_eq, le_div_iff₀ widthPos, ← @Int.cast_le Rat]
  push_cast
  constructor <;> intro atLeast <;> linarith

theorem ImageSize.NonEmpty.one_le_round_widthAt_iff (positive : source.NonEmpty) {height : Int} :
    1 ≤ round (source.widthAt height) ↔ source.height ≤ 2 * source.width * height := by
  have heightPos : (0 : Rat) < source.height := Int.cast_pos.mpr positive.height_pos
  rw [one_le_round_iff, ImageSize.widthAt_eq, le_div_iff₀ heightPos, ← @Int.cast_le Rat]
  push_cast
  constructor <;> intro atLeast <;> linarith

/-- A height that is rounded to at most the bound. -/
theorem ImageSize.NonEmpty.round_heightAt_le_iff (positive : source.NonEmpty)
    {width height : Int} :
    round (source.heightAt width) ≤ height ↔
      2 * source.height * width < source.width * (2 * height + 1) := by
  have widthPos : (0 : Rat) < source.width := Int.cast_pos.mpr positive.width_pos
  rw [round_eq, ← Int.lt_add_one_iff, Int.floor_lt, ImageSize.heightAt_eq, ← @Int.cast_lt Rat,
    ← lt_sub_iff_add_lt, div_lt_iff₀ widthPos]
  push_cast
  constructor <;> intro below <;> linarith

/-- At the fixed width, only the height can be rounded to nothing. -/
theorem ImageSize.NonEmpty.keepsHalfPixel_fixedWidth (sourcePositive : source.NonEmpty)
    (requestedPositive : requested.NonEmpty)
    (low : round (source.heightAt (min source.width requested.width)) ≤ requested.height) :
    source.KeepsHalfPixel requested ↔
      source.width ≤ 2 * source.height * min source.width requested.width := by
  rw [sourcePositive.round_heightAt_le_iff] at low
  obtain ⟨widthPos, heightPos⟩ := sourcePositive
  obtain ⟨requestedWidthPos, requestedHeightPos⟩ := requestedPositive
  have fixed : 1 ≤ min source.width requested.width := le_min widthPos requestedWidthPos
  have keepsHeight : source.height ≤ 2 * source.width * requested.height := by nlinarith
  rw [ImageSize.KeepsHalfPixel, and_iff_left keepsHeight]
  rcases min_choice source.width requested.width with same | same
  · rw [same]
    have ownWidth : source.width ≤ 2 * source.height * source.width := by nlinarith
    refine iff_of_true (ownWidth.trans ?_) ownWidth
    exact mul_le_mul_of_nonneg_left (min_eq_left_iff.mp same) (by omega)
  · rw [same]

/-- At the fixed height, only the width can be rounded to nothing. -/
theorem ImageSize.NonEmpty.keepsHalfPixel_fixedHeight (sourcePositive : source.NonEmpty)
    (requestedPositive : requested.NonEmpty)
    (high : requested.height < round (source.heightAt (min source.width requested.width))) :
    source.KeepsHalfPixel requested ↔
      source.height ≤ 2 * source.width * requested.height := by
  rw [← not_le, sourcePositive.round_heightAt_le_iff, not_lt] at high
  obtain ⟨widthPos, heightPos⟩ := sourcePositive
  obtain ⟨requestedWidthPos, requestedHeightPos⟩ := requestedPositive
  have atMost : 2 * source.height * min source.width requested.width ≤
      2 * source.height * requested.width :=
    mul_le_mul_of_nonneg_left (min_le_right _ _) (by omega)
  exact and_iff_right (by nlinarith)

end Scaling

/-! ### Sizes that are right -/

/-- The size is computed rightly exactly if no side falls under half a pixel. -/
theorem scalesRightly_iff (source requested : ImageSize) (sourcePositive : source.NonEmpty)
    (requestedPositive : requested.NonEmpty) :
    (∃ output, ScalesRightly source requested output) ↔ source.KeepsHalfPixel requested := by
  by_cases fits : source.Fits requested
  · refine iff_of_true ⟨source, scaledSize_fits fits, ?_, fun _ => rfl, absurd fits⟩ ?_
    · exact ⟨sourcePositive.width_pos, le_min le_rfl fits.1, sourcePositive.height_pos,
        le_min le_rfl fits.2⟩
    · obtain ⟨widthPos, heightPos⟩ := sourcePositive
      obtain ⟨widthFits, heightFits⟩ := fits
      exact ⟨by nlinarith, by nlinarith⟩
  rcases le_or_gt (round (source.heightAt (min source.width requested.width))) requested.height
    with low | high
  · have returned := scaledSize_fixedWidth sourcePositive requestedPositive fits low
    rw [sourcePositive.keepsHalfPixel_fixedWidth requestedPositive low,
      ← sourcePositive.one_le_round_heightAt_iff]
    constructor
    · rintro ⟨output, scales⟩
      obtain rfl := Except.ok.inj (returned.symm.trans scales.returned)
      exact scales.within.height_pos
    · intro heightPos
      refine ⟨_, returned, ⟨?_, le_rfl, heightPos, ?_⟩, fun contrary => absurd contrary fits,
        fun _ => .inl ⟨rfl, ?_⟩⟩
      · exact le_min sourcePositive.width_pos requestedPositive.width_pos
      · exact le_min (sourcePositive.round_heightAt_le (min_le_left _ _)) low
      · rw [← ImageSize.heightAt_eq, abs_sub_comm]
        exact abs_sub_round _
  · have returned := scaledSize_fixedHeight sourcePositive requestedPositive fits high
    have overSource : requested.height ≤ source.height :=
      high.le.trans (sourcePositive.round_heightAt_le (min_le_left _ _))
    rw [sourcePositive.keepsHalfPixel_fixedHeight requestedPositive high,
      ← sourcePositive.one_le_round_widthAt_iff]
    constructor
    · rintro ⟨output, scales⟩
      obtain rfl := Except.ok.inj (returned.symm.trans scales.returned)
      exact scales.within.width_pos
    · intro widthPos
      refine ⟨_, returned, ⟨widthPos, ?_, requestedPositive.height_pos, ?_⟩,
        fun contrary => absurd contrary fits, fun _ => .inr ⟨?_, ?_⟩⟩
      · exact sourcePositive.round_widthAt_le high
      · exact le_min overSource le_rfl
      · exact (min_eq_right overSource).symm
      · rw [← ImageSize.widthAt_eq, abs_sub_comm]
        exact abs_sub_round _

/-- A panorama is scaled to the standard size. -/
theorem scalesRightly_iff_panorama :
    (∃ output, ScalesRightly ⟨4000, 1000⟩ ⟨1024, 768⟩ output) ↔
      ImageSize.KeepsHalfPixel ⟨4000, 1000⟩ ⟨1024, 768⟩ :=
  scalesRightly_iff ⟨4000, 1000⟩ ⟨1024, 768⟩ ⟨by decide, by decide⟩ ⟨by decide, by decide⟩

/-- The thumbnail of a line of 401 pixels has no height. -/
theorem not_scalesRightly : ¬ ∃ output, ScalesRightly ⟨401, 1⟩ ⟨200, 200⟩ output := by
  rintro ⟨output, scales⟩
  have empty : scaledSize ⟨401, 1⟩ (some 200) (some 200) = .ok ⟨200, 0⟩ := by decide +kernel
  obtain rfl := Except.ok.inj (empty.symm.trans scales.returned)
  exact absurd scales.within.height_pos (by decide)

end GraffiTab
