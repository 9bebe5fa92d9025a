import DashKit.Number.Shortest

/-!
# Number Texts

How the shortest decimal of a double is laid out as text.

Which digits are written is settled by the search for the shortest decimal.
What is left are decisions of the format, and they are gathered in a
`NumberStyle`: which magnitudes are written out positionally, whether a whole
number keeps its point, and which way a tie goes.

## Main definitions

* `NumberStyle`: The decisions of one output format.
* `NumberStyle.render`: The text of a double.
* `fixedTenths`: The text of a double to one decimal place.
-/

namespace DashKit

/-- The decisions of one output format for numbers. -/
structure NumberStyle where
  /-- Which of two equally near shortest decimals is written. -/
  tie : Tie
  /-- Numbers are written out positionally if the position of their point,
      counted from their first digit, passes this test. -/
  positional : Int → Bool
  /-- What is written after a whole number. -/
  wholeMark : String

/-- A sign, or nothing. -/
def minusSign (negative : Bool) : String :=
  if negative then "-" else ""

namespace NumberStyle

/-- Digits written out, with the point `point` places after the first. -/
def writtenOut (style : NumberStyle) (digits : List Char) (point : Int) : String :=
  -- The point stands before all digits, behind all of them, or among them.
  if point ≤ 0 then
    "0." ++ String.ofList (List.replicate (-point).toNat '0' ++ digits)
  else if digits.length ≤ point.toNat then
    String.ofList (digits ++ List.replicate (point.toNat - digits.length) '0') ++ style.wholeMark
  else
    String.ofList (digits.take point.toNat) ++ "." ++ String.ofList (digits.drop point.toNat)

/-- Digits with the point after the first, times a power of ten. -/
def powerOfTen (digits : List Char) (point : Int) : String :=
  let fraction := digits.drop 1
  String.ofList (digits.take 1)
    ++ (if fraction.isEmpty then "" else "." ++ String.ofList fraction)
    ++ "e" ++ (if point ≤ 0 then "-" else "+") ++ toString (point - 1).natAbs

/-- A decimal other than zero as text. -/
def decimal (style : NumberStyle) (d : Decimal) : String :=
  let digits := Nat.toDigits 10 d.digits
  let point := digits.length + d.exponent
  if style.positional point then style.writtenOut digits point else powerOfTen digits point

/-- The text of a double. Zero keeps its sign. -/
def render (style : NumberStyle) (x : Float) : String :=
  match FloatClass.ofFloat x with
  | .notANumber => "NaN"
  | .infinite negative => minusSign negative ++ "inf"
  | .finite negative magnitude =>
      minusSign negative
        ++ if magnitude.m = 0 then "0" ++ style.wholeMark
           else style.decimal (magnitude.shortest style.tie)

end NumberStyle

/-- A quotient rounded to the nearest natural, a half to the even one. -/
def roundHalfEven (num den : Nat) : Nat :=
  let quotient := num / den
  match compare (2 * (num % den)) den with
  | .lt => quotient
  | .gt => quotient + 1
  | .eq => if quotient % 2 = 0 then quotient else quotient + 1

/-- The tenths of a magnitude, rounded from its exact value. -/
def Magnitude.tenths (x : Magnitude) : Nat :=
  roundHalfEven (10 * x.m * Nat.pow 2 x.q.toNat) (Nat.pow 2 (-x.q).toNat)

/-- The text of a double to one decimal place. -/
def fixedTenths (x : Float) : String :=
  match FloatClass.ofFloat x with
  | .notANumber => "NaN"
  | .infinite negative => minusSign negative ++ "inf"
  | .finite negative magnitude =>
      minusSign negative ++ toString (magnitude.tenths / 10) ++ "."
        ++ toString (magnitude.tenths % 10)

end DashKit
