/-!
# Bar Heights

How high the bars of one series are drawn.

Bars are drawn as percentages of the largest value of their series. A value
below zero has no height, and if no value is above zero none has. Only an
order, a division and a multiplication are needed, so the heights are defined
over any type that has them: the doubles that are drawn, or exact fractions.

Comparisons put what is known first, so that a value that is no number counts
as no height and is never the largest.

## Main definitions

* `larger`: The larger of two values, the first unless the second exceeds it.
* `tallest`: The largest value above zero, or zero.
* `percentages`: The heights of a series.

## Theorems

* `percentages_length`: Every value has a height.
-/

namespace DashKit

namespace Bars

variable {α : Type} [OfNat α 0] [OfNat α 100] [LT α] [DecidableLT α] [Div α] [Mul α]

/-- The second value if it exceeds the first, else the first. -/
def larger (a b : α) : α :=
  if a < b then b else a

/-- The largest value above zero, or zero. -/
def tallest (values : List α) : α :=
  values.foldl larger 0

/-- The height of each value as a percentage of the largest. -/
def percentages (values : List α) : List α :=
  if 0 < tallest values then
    values.map fun value => larger 0 value / tallest values * 100
  else values.map fun _ => 0

/-- Every value has a height. -/
theorem percentages_length (values : List α) :
    (percentages values).length = values.length := by
  unfold percentages
  split <;> exact List.length_map _

end Bars

end DashKit
