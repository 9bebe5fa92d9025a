import DashKit.Number.Layout

/-!
# JSON Numbers

The numbers of a JSON text, and how a complaint spells them.

A literal without a fraction and an exponent is a whole number as long as it
fits into sixty-four bits, with or without a sign. Everything else is a
double, negative zero included.

## Main definitions

* `Numeral`: A natural, a negative integer, or a double.
* `Numeral.style`: How a double is spelled.
* `Numeral.text`: The spelling of a number.
-/

namespace DashKit

namespace Json

/-- A number of a JSON text. -/
inductive Numeral
  /-- A natural number below `2 ^ 64`. -/
  | natural (n : Nat)
  /-- The number `-n`, for `n` from one to `2 ^ 63`. -/
  | negative (n : Nat)
  /-- Any other number, as a double. -/
  | real (x : Float)

namespace Numeral

/-- The number was written as an integer that fits. -/
def isWhole : Numeral → Bool
  | natural _ => true
  | negative _ => true
  | real _ => false

/-- Doubles are written out from a hundred-thousandth up to below `10 ^ 16`,
    a whole one keeps its point, and a tie goes to the even digit. -/
def style : NumberStyle where
  tie := .toEven
  positional := fun point => -4 ≤ point && point ≤ 16
  wholeMark := ".0"

/-- The spelling of a number. -/
def text : Numeral → String
  | natural n => toString n
  | negative n => "-" ++ toString n
  | real x => style.render x

end Numeral

end Json

end DashKit
