import DashKit.Chart.Heights
import Mathlib.Algebra.Order.Field.Basic
import Mathlib.Algebra.Order.Field.Rat
import Mathlib.Data.List.FinRange
import Mathlib.Tactic.NormNum

/-!
# Heights in Exact Arithmetic

What bars tell about their values when nothing is rounded.

The heights of a series are its values divided by the largest of them, those
below zero taken as zero. Over fractions this keeps everything that a reader of
a chart goes by. The whole argument is in two facts. The tallest value is the
least bound of all values and of zero (`tallest_le_iff`), which is all that is
ever used of the fold that computes it. And heights compare as the values do once
they are cut off at zero (`height_le_iff`), so that a height is zero, or a hundred,
exactly where the comparison with the height of zero, or of the tallest value,
says so.

Whether a division by zero occurs cannot be read off a fraction, because a total
division has an answer there as well. `Checked` has no such answer: what was
divided by zero stays undefined whatever is done with it. The heights are defined
over any type with an order and a division, so they can be computed there too,
and they come out as the same fractions.

## Main definitions

* `Checked`: Fractions with a division that may be undefined.
* `Bars.height`: The height of one value among others.

## Theorems

* `Bars.tallest_le_iff`: The tallest value is the least bound.
* `Bars.height_le_iff`: Heights compare as values cut off at zero.
* `Bars.tallest_scaled`, `Bars.tallest_congr`: The tallest of values that were
  multiplied or rearranged.
* `Bars.percentages_checked`: No division by zero occurs.
* `Bars.percentages_proportional`: What heights tell about their values.
-/

namespace DashKit

/-- A fraction, or what a division by zero leaves. -/
inductive Checked
  | value (fraction : ℚ)
  | undefined
  deriving DecidableEq

namespace Checked

/-- One fraction is below the other. What is undefined is below nothing and above
    nothing. -/
def IsBelow : Checked → Checked → Prop
  | value a, value b => a < b
  | _, _ => False

/-- The quotient, which is undefined if the divisor is zero. -/
def quotient : Checked → Checked → Checked
  | value a, value b => if b = 0 then undefined else value (a / b)
  | _, _ => undefined

/-- The product. -/
def product : Checked → Checked → Checked
  | value a, value b => value (a * b)
  | _, _ => undefined

instance : OfNat Checked 0 := ⟨value 0⟩

instance : OfNat Checked 100 := ⟨value 100⟩

instance : LT Checked := ⟨IsBelow⟩

instance : DecidableLT Checked
  | value a, value b => inferInstanceAs (Decidable (a < b))
  | value _, undefined => isFalse id
  | undefined, _ => isFalse id

instance : Div Checked := ⟨quotient⟩

instance : Mul Checked := ⟨product⟩

theorem value_lt_value {a b : ℚ} : value a < value b ↔ a < b :=
  Iff.rfl

theorem value_div_value {b : ℚ} (h : b ≠ 0) (a : ℚ) : value a / value b = value (a / b) :=
  if_neg h

end Checked

namespace Bars

theorem larger_eq_max (a b : ℚ) : larger a b = max a b :=
  (max_def_lt a b).symm

/-- The tallest value is the least bound of all values and of zero. -/
theorem tallest_le_iff {values : List ℚ} {bound : ℚ} :
    tallest values ≤ bound ↔ 0 ≤ bound ∧ ∀ v ∈ values, v ≤ bound := by
  -- The fold may start anywhere, which is what the induction needs.
  have hfold : ∀ start : ℚ, values.foldl larger start ≤ bound ↔
      start ≤ bound ∧ ∀ v ∈ values, v ≤ bound := by
    induction values with
    | nil =>
        intro start
        exact (and_iff_left fun _ h => absurd h List.not_mem_nil).symm
    | cons value values ih =>
        intro start
        rw [List.foldl_cons, ih, larger_eq_max, max_le_iff, List.forall_mem_cons, and_assoc]
  exact hfold 0

theorem le_tallest {values : List ℚ} {v : ℚ} (h : v ∈ values) : v ≤ tallest values :=
  (tallest_le_iff.mp le_rfl).2 v h

/-- The tallest value is above zero exactly if some value is. -/
theorem tallest_pos_iff {values : List ℚ} : 0 < tallest values ↔ ∃ v ∈ values, 0 < v := by
  -- No value is above zero exactly if zero is a bound.
  rw [← not_le, tallest_le_iff]
  simp only [le_refl, true_and, not_forall, exists_prop, not_le]

/-- Values multiplied by a factor have the tallest value multiplied by it. -/
theorem tallest_scaled {factor : ℚ} (h : 0 < factor) (values : List ℚ) :
    tallest (values.map (factor * ·)) = factor * tallest values := by
  -- Two numbers with the same upper bounds are the same.
  refine eq_of_forall_ge_iff ?_
  intro bound
  rw [tallest_le_iff, ← le_div_iff₀' h, tallest_le_iff, le_div_iff₀' h, mul_zero]
  simp only [List.forall_mem_map, le_div_iff₀' h]

/-- The tallest value does not depend on where values stand. -/
theorem tallest_congr {values others : List ℚ} (h : ∀ v, v ∈ values ↔ v ∈ others) :
    tallest values = tallest others := by
  refine eq_of_forall_ge_iff ?_
  intro bound
  simp only [tallest_le_iff, h]

/-- The height of one value among others. -/
def height (values : List ℚ) (v : ℚ) : ℚ :=
  if 0 < tallest values then max 0 v / tallest values * 100 else 0

theorem percentages_eq_map (values : List ℚ) :
    percentages values = values.map (height values) := by
  rw [percentages]
  split
  · next h =>
      refine List.map_congr_left ?_
      intro v _
      rw [height, if_pos h, larger_eq_max]
  · next h =>
      refine List.map_congr_left ?_
      intro v _
      rw [height, if_neg h]

/-- Heights compare as their values do, cut off at zero. -/
theorem height_le_iff {values : List ℚ} (h : 0 < tallest values) {v w : ℚ} :
    height values v ≤ height values w ↔ max 0 v ≤ max 0 w := by
  rw [height, height, if_pos h, if_pos h, mul_le_mul_iff_left₀ (by norm_num),
    div_le_div_iff_of_pos_right h]

theorem height_eq_iff {values : List ℚ} (h : 0 < tallest values) {v w : ℚ} :
    height values v = height values w ↔ max 0 v = max 0 w := by
  rw [le_antisymm_iff, le_antisymm_iff, height_le_iff h, height_le_iff h]

theorem height_zero (values : List ℚ) : height values 0 = 0 := by
  rw [height, max_self, zero_div, zero_mul, ite_self]

theorem height_tallest {values : List ℚ} (h : 0 < tallest values) :
    height values (tallest values) = 100 := by
  rw [height, if_pos h, max_eq_right h.le, div_self h.ne', one_mul]

/-- A value is at the top exactly if it is as large as every other. -/
theorem height_eq_hundred_iff {values : List ℚ} (h : 0 < tallest values) {v : ℚ}
    (hv : v ∈ values) : height values v = 100 ↔ ∀ w ∈ values, w ≤ v := by
  rw [← height_tallest h, height_eq_iff h, max_eq_right h.le]
  constructor
  -- At the top the value is the tallest itself, since the tallest is above zero.
  · intro htop w hw
    have hvt : v = tallest values := by
      rcases max_choice 0 v with hz | hz
      · exact absurd (hz.symm.trans htop) h.ne
      · exact hz.symm.trans htop
    rw [hvt]
    exact le_tallest hw
  · intro hlargest
    rcases tallest_pos_iff.mp h with ⟨w, hw, hpos⟩
    have hv0 : 0 ≤ v := hpos.le.trans (hlargest w hw)
    rw [max_eq_right hv0]
    exact le_antisymm (le_tallest hv) (tallest_le_iff.mpr ⟨hv0, hlargest⟩)

/-- A height lies between zero and a hundred, and is zero exactly if the value is
    not above zero. -/
theorem height_bounds {values : List ℚ} {v : ℚ} (hv : v ∈ values) :
    0 ≤ height values v ∧ height values v ≤ 100 ∧ (height values v = 0 ↔ v ≤ 0) := by
  -- Zero, the value and the tallest value are compared by their heights.
  by_cases h : 0 < tallest values
  · have hlow : height values 0 ≤ height values v :=
      (height_le_iff h).mpr ((max_self (0 : ℚ)).trans_le (le_max_left 0 v))
    have hhigh : height values v ≤ height values (tallest values) :=
      (height_le_iff h).mpr (max_le_max_left 0 (le_tallest hv))
    have hzero : height values v = height values 0 ↔ max 0 v = max 0 0 := height_eq_iff h
    rw [height_zero] at hlow hzero
    rw [height_tallest h] at hhigh
    rw [max_self, max_eq_left_iff] at hzero
    exact ⟨hlow, hhigh, hzero⟩
  · rw [height, if_neg h]
    refine ⟨le_rfl, by norm_num, iff_of_true rfl ?_⟩
    exact (le_tallest hv).trans (not_lt.mp h)

/-- No division by zero occurs: heights that would show one are the same. -/
theorem percentages_checked (values : List ℚ) :
    percentages (values.map Checked.value) = (percentages values).map Checked.value := by
  have hlarger : ∀ a b : ℚ, larger (Checked.value a) (Checked.value b) =
      Checked.value (larger a b) := by
    intro a b
    rw [larger, larger, apply_ite Checked.value]
    simp only [Checked.value_lt_value]
  have htallest : tallest (values.map Checked.value) = Checked.value (tallest values) := by
    rw [tallest, List.foldl_map]
    exact List.foldl_hom Checked.value hlarger
  -- The guard is asked in both arithmetics and has the same answer.
  have hguard : (0 : Checked) < tallest (values.map Checked.value) ↔ 0 < tallest values := by
    rw [htallest]
    exact Checked.value_lt_value
  rw [percentages, percentages]
  by_cases h : 0 < tallest values
  · rw [if_pos (hguard.mpr h), if_pos h, List.map_map, List.map_map, htallest]
    refine List.map_congr_left ?_
    intro v _
    change larger (Checked.value 0) (Checked.value v) / Checked.value (tallest values) *
      Checked.value 100 = _
    -- Behind the guard the divisor is above zero, so the quotient is defined.
    rw [hlarger, Checked.value_div_value h.ne']
    rfl
  · rw [if_neg fun hlt => h (hguard.mp hlt), if_neg h, List.map_map, List.map_map]
    rfl

theorem percentages_scaled {factor : ℚ} (h : 0 < factor) (values : List ℚ) :
    percentages (values.map (factor * ·)) = percentages values := by
  rw [percentages_eq_map, percentages_eq_map, List.map_map]
  refine List.map_congr_left ?_
  intro v _
  -- The factor can be taken out of the cut, and then cancels.
  have hcut : max 0 (factor * v) = factor * max 0 v := by
    rw [mul_max_of_nonneg _ _ h.le, mul_zero]
  rw [Function.comp_apply, height, height, tallest_scaled h, hcut, mul_div_mul_left _ _ h.ne']
  simp only [mul_pos_iff_of_pos_left h]

/-- Values that were rearranged have the heights that they had before. -/
theorem percentages_rearranged (values : List ℚ) (order : Equiv.Perm (Fin values.length)) :
    percentages (List.ofFn fun i => values.get (order i)) =
      List.ofFn fun i =>
        (percentages values).get ((order i).cast (percentages_length values).symm) := by
  -- The tallest value is that of the same values, so each value has its height.
  have hperm : (List.ofFn fun i => values.get (order i)).Perm values := by
    refine (order.ofFn_comp_perm values.get).trans ?_
    rw [List.ofFn_get]
  have hheight : height (List.ofFn fun i => values.get (order i)) = height values := by
    funext v
    rw [height, height, tallest_congr fun _ => hperm.mem_iff]
  rw [percentages_eq_map, hheight, List.map_ofFn]
  congr 1
  funext i
  simp only [Function.comp_apply, percentages_eq_map, List.get_eq_getElem, List.getElem_map,
    Fin.val_cast]

/-- Every value has a height between zero and a hundred, which is zero exactly if
    the value is not above zero. If some value is, then the height is a hundred
    exactly for the values that are as large as every other, and heights compare as
    the values do once they are cut off at zero; if none is, all heights are zero.
    No division by zero occurs on the way. Values that are multiplied by a factor
    above zero keep their heights, and values that are rearranged take theirs
    along. -/
theorem percentages_proportional (values : List ℚ) :
    (percentages values).length = values.length ∧
      (∀ bar ∈ values.zip (percentages values),
        0 ≤ bar.2 ∧ bar.2 ≤ 100 ∧ (bar.2 = 0 ↔ bar.1 ≤ 0)) ∧
      ((∃ v ∈ values, 0 < v) →
        ∀ bar ∈ values.zip (percentages values), (bar.2 = 100 ↔ ∀ v ∈ values, v ≤ bar.1) ∧
          ∀ other ∈ values.zip (percentages values),
            bar.2 ≤ other.2 ↔ max 0 bar.1 ≤ max 0 other.1) ∧
      ((∀ v ∈ values, v ≤ 0) → ∀ height ∈ percentages values, height = 0) ∧
      percentages (values.map Checked.value) = (percentages values).map Checked.value ∧
      (∀ factor, 0 < factor → percentages (values.map (factor * ·)) = percentages values) ∧
      ∀ order : Equiv.Perm (Fin values.length),
        percentages (List.ofFn fun i => values.get (order i)) =
          List.ofFn fun i =>
            (percentages values).get ((order i).cast (percentages_length values).symm) := by
  have hbars : ∀ bar ∈ values.zip (percentages values),
      bar.1 ∈ values ∧ bar.2 = height values bar.1 := by
    intro bar hbar
    -- A bar is a value with its height.
    have hzip : values.zip (percentages values) = values.map fun v => (v, height values v) := by
      have hself : (values.map id).zip (values.map (height values)) = _ := List.zip_map'
      rwa [List.map_id, ← percentages_eq_map] at hself
    rw [hzip] at hbar
    rcases List.mem_map.mp hbar with ⟨v, hv, rfl⟩
    exact ⟨hv, rfl⟩
  refine ⟨percentages_length values, ?_, ?_, ?_, percentages_checked values,
    fun factor hfactor => percentages_scaled hfactor values, percentages_rearranged values⟩
  · intro bar hbar
    rcases hbars bar hbar with ⟨hmem, hheight⟩
    rw [hheight]
    exact height_bounds hmem
  · intro hpos bar hbar
    rw [← tallest_pos_iff] at hpos
    rcases hbars bar hbar with ⟨hmem, hheight⟩
    refine ⟨?_, ?_⟩
    · rw [hheight]
      exact height_eq_hundred_iff hpos hmem
    · intro other hother
      rw [hheight, (hbars other hother).2]
      exact height_le_iff hpos
  · intro hnone h hh
    rw [percentages_eq_map] at hh
    rcases List.mem_map.mp hh with ⟨v, hv, rfl⟩
    exact (height_bounds hv).2.2.mpr (hnone v hv)

end Bars

end DashKit
