/-!
# Double-Precision Values

What the sixty-four bits of a double say, in exact integers.

A finite magnitude is `m * 2 ^ q`. Everything that must be exact about a
double, its shortest decimal text or its value to one place, is a question
about `m` and `q`, so those modules start from `FloatClass` and never compute
with floating-point operations.

## Main definitions

* `Magnitude`: A finite magnitude, with the size of the gap below it.
* `FloatClass`: Not a number, an infinity, or a signed magnitude.
* `FloatClass.ofFloat`: The class of a double.
* `nearestWhole`, `infinityBound`: Rounding to a double, and where the doubles
  end.
-/

namespace DashKit

/-- The finite magnitude `m * 2 ^ q`. -/
structure Magnitude where
  m : Nat
  q : Int
  /-- The next magnitude below is only half as far away as the one above,
      as it is under every power of two but the least. -/
  halfGapBelow : Bool
  deriving DecidableEq, Repr

/-- What a double stands for. -/
inductive FloatClass
  | notANumber
  | infinite (negative : Bool)
  | finite (negative : Bool) (magnitude : Magnitude)
  deriving DecidableEq, Repr

namespace FloatClass

/-- The class that sixty-four bits encode: a sign, eleven bits of exponent
    and fifty-two of fraction. -/
def ofBits (bits : UInt64) : FloatClass :=
  let negative := bits >>> 63 == 1
  let exponent := ((bits >>> 52) &&& 0x7FF).toNat
  let fraction := (bits &&& 0xFFFFFFFFFFFFF).toNat
  if exponent = 0x7FF then
    if fraction = 0 then infinite negative else notANumber
  else if exponent = 0 then
    finite negative ⟨fraction, -1074, false⟩
  else
    -- The bit in front of the fraction is not stored.
    finite negative
      ⟨0x10000000000000 + fraction, (exponent : Int) - 1075, fraction == 0 && exponent != 1⟩

/-- The class of a double. -/
def ofFloat (x : Float) : FloatClass :=
  ofBits x.toBits

end FloatClass

/-- The double next to a natural number: fifty-three of its binary digits are
    kept, and a tie goes to the even one. -/
def nearestWhole (n : Nat) : Nat :=
  let unit := Nat.pow 2 (n.log2 - 52)
  let kept := n / unit
  let left := n % unit
  if unit < 2 * left ∨ (2 * left = unit ∧ kept % 2 = 1) then (kept + 1) * unit else kept * unit

/-- The least number that no double is next to: it lies halfway between the
    greatest double and the power of two behind it, and a tie goes up. -/
def infinityBound : Nat := Nat.pow 2 1024 - Nat.pow 2 970

end DashKit
