/-!
# Money

Amounts of money as text.

An amount is a number of cents. It is written in dollars with two decimals,
and its dollars are grouped by thousands. A group ends after a digit exactly
if a positive multiple of three digits is still to come.

## Main definitions

* `groupThousands`: Digits with a comma between groups.
* `moneyText`: An amount as text.
-/

namespace DashKit

/-- Digits with a comma between groups of three, counted from the right. -/
def groupThousands : List Char → List Char
  | [] => []
  | digit :: digits =>
      if digits.length % 3 = 0 ∧ digits ≠ [] then digit :: ',' :: groupThousands digits
      else digit :: groupThousands digits

/-- A number below a hundred as two digits. -/
def twoDigits (n : Nat) : List Char :=
  [Nat.digitChar (n / 10), Nat.digitChar (n % 10)]

/-- An amount of cents in dollars. -/
def moneyText (cents : UInt64) : String :=
  String.ofList ('$' :: groupThousands (Nat.toDigits 10 (cents.toNat / 100))
    ++ '.' :: twoDigits (cents.toNat % 100))

end DashKit
