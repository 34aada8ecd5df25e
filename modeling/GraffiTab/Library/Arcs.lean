/-
This file is about intervals of numbers that stand for arcs of a circle.

The numbers from minus one half turn to one half turn are the points of the circle, and its two
ends are one point. The numbers within an offset of a centre are an interval, and the points
within the offset of the centre, measured around the circle, are an arc. The two are the same
exactly if the interval reaches neither end, or both.
-/

import Mathlib.Algebra.Order.Ring.Abs
import Mathlib.Tactic.Linarith
import Mathlib.Tactic.NormNum

namespace Arcs

universe u

variable {Number : Type u} [Field Number] [LinearOrder Number] [IsStrictOrderedRing Number]

/-- The points are at most the offset apart, measured around the circle. -/
def WithinArc (half offset first second : Number) : Prop :=
  ∃ turns : ℤ, |first - second + turns * (2 * half)| ≤ offset

section Arc

variable {half offset centre point : Number}

omit [IsStrictOrderedRing Number] in
theorem WithinArc.of_abs_le (near : |point - centre| ≤ offset) :
    WithinArc half offset point centre :=
  ⟨0, by rwa [Int.cast_zero, zero_mul, add_zero]⟩

/-- The arc around a centre whose interval reaches neither end is the interval. -/
theorem WithinArc.near (within : WithinArc half offset point centre)
    (pointBounds : |point| ≤ half) (notRight : centre + offset < half)
    (notLeft : -half < centre - offset) : |point - centre| ≤ offset := by
  obtain ⟨turns, turned⟩ := within
  have offsetNonneg : 0 ≤ offset := (abs_nonneg _).trans turned
  rw [abs_le] at pointBounds turned
  have halfPositive : 0 < 2 * half := by linarith
  rcases lt_trichotomy turns 0 with backward | none | forward
  · -- The point would lie to the right of the end.
    have atMost : (turns : Number) ≤ -1 := by exact_mod_cast Int.le_sub_one_of_lt backward
    have shifted := mul_le_mul_of_nonneg_right atMost halfPositive.le
    linarith
  · rw [none, Int.cast_zero, zero_mul, add_zero] at turned
    exact abs_le.mpr turned
  · have atLeast : (1 : Number) ≤ turns := by exact_mod_cast forward
    have shifted := mul_le_mul_of_nonneg_right atLeast halfPositive.le
    linarith

/-- The left end of the circle is the right one. -/
theorem WithinArc.left_end (offsetNonneg : 0 ≤ offset) (centreBounds : |centre| ≤ half)
    (reached : half ≤ centre + offset) : WithinArc half offset (-half) centre := by
  rw [abs_le] at centreBounds
  refine ⟨1, abs_le.mpr ⟨?_, ?_⟩⟩
  · push_cast
    linarith
  · push_cast
    linarith

theorem WithinArc.right_end (offsetNonneg : 0 ≤ offset) (centreBounds : |centre| ≤ half)
    (reached : centre - offset ≤ -half) : WithinArc half offset half centre := by
  rw [abs_le] at centreBounds
  refine ⟨-1, abs_le.mpr ⟨?_, ?_⟩⟩
  · push_cast
    linarith
  · push_cast
    linarith

/-- The interval around a centre is the arc exactly if it reaches neither end, or both. -/
theorem interval_iff_arc (offsetNonneg : 0 ≤ offset) (centreBounds : |centre| ≤ half) :
    (∀ point, |point| ≤ half → (|point - centre| ≤ offset ↔ WithinArc half offset point centre)) ↔
      (centre + offset < half ↔ -half < centre - offset) := by
  have halfNonneg : 0 ≤ half := (abs_nonneg centre).trans centreBounds
  constructor
  · intro same
    constructor
    · intro notRight
      by_contra reached
      have near := (same half (abs_of_nonneg halfNonneg).le).mpr
        (.right_end offsetNonneg centreBounds (not_lt.mp reached))
      have := (abs_le.mp near).2
      linarith
    · intro notLeft
      by_contra reached
      have near := (same (-half) (by rw [abs_neg, abs_of_nonneg halfNonneg])).mpr
        (.left_end offsetNonneg centreBounds (not_lt.mp reached))
      have := (abs_le.mp near).1
      linarith
  · intro sides point pointBounds
    refine ⟨.of_abs_le, fun within => ?_⟩
    by_cases notRight : centre + offset < half
    · exact within.near pointBounds notRight (sides.mp notRight)
    · have right := not_lt.mp notRight
      have left := not_lt.mp (mt sides.mpr notRight)
      rw [abs_le] at pointBounds ⊢
      exact ⟨by linarith, by linarith⟩

end Arc

end Arcs
