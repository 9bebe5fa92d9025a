import DashKit.Number.Binary64

/-!
# Shortest Decimals

The decimal with the fewest digits that still reads back as a given double.

The reals that round to a double form an interval around it, from halfway to
the neighbour below up to halfway to the neighbour above, the ends included
exactly when `m` is even. The search walks grids of powers of ten from coarse
to fine and stops at the first that has a point in the interval. Only the two
points next to the value need to be tested on each grid, and of two hits the
nearer is taken. What happens when both are equally near is a decision of the
format, so it is a parameter.

Comparisons are made in quarters of `2 ^ q`, where the value and both ends
are naturals; `Grid` holds the two factors that bring a grid point to the
same scale.

## Main definitions

* `Decimal`: A natural times a power of ten.
* `Tie`: Which of two equally near decimals is taken.
* `Magnitude.admits`: A grid point lies in the interval.
* `Magnitude.shortest`: The result of the search.
-/

namespace DashKit

/-- The decimal `digits * 10 ^ exponent`. -/
structure Decimal where
  digits : Nat
  exponent : Int
  deriving DecidableEq, Repr

/-- Which of two equally near decimals is taken. -/
inductive Tie
  | toEven
  | up
  deriving DecidableEq, Repr

/-- The points `c * 10 ^ k`, measured in quarters of `2 ^ q`: the point `c`
    stands at `c * up / down`. -/
structure Grid where
  up : Nat
  down : Nat

namespace Magnitude

/-- The grid of `10 ^ k` at the scale of a magnitude. -/
def grid (x : Magnitude) (k : Int) : Grid where
  up := Nat.pow 10 k.toNat * Nat.pow 2 (2 - x.q).toNat
  down := Nat.pow 10 (-k).toNat * Nat.pow 2 (x.q - 2).toNat

/-- The value in quarters of `2 ^ q`. -/
def quarters (x : Magnitude) : Nat := 4 * x.m

/-- The grid point `c` lies among the reals that round to the value. -/
def admits (x : Magnitude) (g : Grid) (c : Nat) : Bool :=
  -- Below a power of two the neighbour is only half as far away.
  let low := (x.quarters - if x.halfGapBelow then 1 else 2) * g.down
  let high := (x.quarters + 2) * g.down
  let here := c * g.up
  if x.m % 2 = 0 then low ≤ here && here ≤ high
  else low < here && here < high

/-- Of the points `c` and `c + 1` around the value, the nearer one. -/
def nearer (x : Magnitude) (g : Grid) (tie : Tie) (c : Nat) : Nat :=
  match compare (2 * (x.quarters * g.down)) ((2 * c + 1) * g.up), tie with
  | .lt, _ => c
  | .gt, _ => c + 1
  | .eq, .up => c + 1
  | .eq, .toEven => if c % 2 = 0 then c else c + 1

/-- The point of a grid that reads back as the value, when there is one. -/
def onGrid? (x : Magnitude) (tie : Tie) (k : Int) : Option Decimal :=
  let g := x.grid k
  -- The last grid point that is not above the value.
  let c := x.quarters * g.down / g.up
  match x.admits g c, x.admits g (c + 1) with
  | true, true => some ⟨x.nearer g tie c, k⟩
  | true, false => some ⟨c, k⟩
  | false, true => some ⟨c + 1, k⟩
  | false, false => none

/-- The value itself as a decimal, with all its digits. -/
def exact (x : Magnitude) : Decimal :=
  if 0 ≤ x.q then ⟨x.m * Nat.pow 2 x.q.toNat, 0⟩ else ⟨x.m * Nat.pow 5 (-x.q).toNat, x.q⟩

/-- A power of ten above the value, by at most two digits too large: the
    binary logarithm times that of two. -/
def ceilingExponent (x : Magnitude) : Int :=
  -- The fraction is the decimal logarithm of two to five places.
  ((x.m.log2 : Int) + x.q) * 30103 / 100000 + 1

/-- The decimal with the fewest digits that reads back as a positive value.
    Twenty grids reach past the seventeenth digit, where every double has a
    hit; the value itself stands behind them so that the answer is never a
    guess. -/
def shortest (x : Magnitude) (tie : Tie) : Decimal :=
  ((List.range 20).findSome? fun (i : Nat) => x.onGrid? tie (x.ceilingExponent - i)).getD x.exact

end Magnitude

end DashKit
