/-!
# Digits

Numbers that are spelled with digits, in a base up to sixteen.

## Main definitions

* `hexDigit?`: The value of a digit.
* `number?`: The number that digits spell.

## Theorems

* `number?_append`: Reading goes on where it stopped.
* `number?_toDigits`: The digits of a number spell that number.
* `head?_toDigits`: Only zero begins with a zero.
-/

namespace DashKit

namespace Text

/-- The value of a hexadecimal digit. -/
def hexDigit? (c : Char) : Option Nat :=
  if c.isDigit then some (c.toNat - '0'.toNat)
  else if 'a' ≤ c ∧ c ≤ 'f' then some (c.toNat - 'a'.toNat + 10)
  else if 'A' ≤ c ∧ c ≤ 'F' then some (c.toNat - 'A'.toNat + 10)
  else none

/-- The number that the digits of a base spell behind the digits of `n`. -/
def numberFrom? (base : Nat) : Nat → List Char → Option Nat
  | n, [] => some n
  | n, c :: r =>
      match hexDigit? c with
      | none => none
      | some d => if d < base then numberFrom? base (n * base + d) r else none

/-- The number that digits of a base spell. No digits at all spell zero. -/
def number? (base : Nat) (s : List Char) : Option Nat :=
  numberFrom? base 0 s

/-- Reading goes on where it stopped. -/
theorem numberFrom?_append (base n : Nat) (s t : List Char) :
    numberFrom? base n (s ++ t) = (numberFrom? base n s).bind (numberFrom? base · t) := by
  fun_induction numberFrom? base n s with
  | case1 => rfl
  | case2 n c r h => simp only [List.cons_append, numberFrom?, h, Option.bind_none]
  | case3 n c r d h hd ih => simp only [List.cons_append, numberFrom?, h, hd, if_pos, ih]
  | case4 n c r d h hd =>
      simp only [List.cons_append, numberFrom?, h, hd, if_false, Option.bind_none]

/-- A number with more digits behind it. -/
theorem number?_append (base : Nat) (s t : List Char) :
    number? base (s ++ t) = (number? base s).bind (numberFrom? base · t) :=
  numberFrom?_append base 0 s t

theorem hexDigit?_digitChar : ∀ d < 16, hexDigit? (Nat.digitChar d) = some d := by
  decide

/-- One more digit behind a number. -/
theorem numberFrom?_digitChar {base d : Nat} (n : Nat) (hd : d < base) (hbase : base ≤ 16) :
    numberFrom? base n [Nat.digitChar d] = some (n * base + d) := by
  have hdigit := hexDigit?_digitChar d (by omega)
  simp only [numberFrom?, hdigit, if_pos hd]

/-- The digits of a number spell that number. All but the last are the digits
    of a smaller one. -/
theorem number?_toDigits {base : Nat} (hone : 1 < base) (hbase : base ≤ 16) (n : Nat) :
    number? base (Nat.toDigits base n) = some n := by
  induction n using Nat.strongRecOn with
  | ind n ih =>
      by_cases hn : n < base
      · rw [Nat.toDigits_of_lt_base hn, number?, numberFrom?_digitChar 0 hn hbase, Nat.zero_mul,
          Nat.zero_add]
      · have hle : base ≤ n := Nat.le_of_not_lt hn
        have hsmaller : n / base < n := Nat.div_lt_self (by omega) hone
        have hlast : n % base < base := Nat.mod_lt n (by omega)
        rw [Nat.toDigits_of_base_le hone hle, number?_append, ih (n / base) hsmaller,
          Option.bind_some, numberFrom?_digitChar _ hlast hbase, Nat.div_add_mod']

/-- Only zero begins with a zero. -/
theorem head?_toDigits {n : Nat} (h : 0 < n) : (Nat.toDigits 10 n).head? ≠ some '0' := by
  induction n using Nat.strongRecOn with
  | ind n ih =>
      by_cases hn : n < 10
      · rw [Nat.toDigits_of_lt_base hn, List.head?_cons, ne_eq, Option.some_inj,
          Nat.digitChar_eq_zero]
        omega
      · have hdiv := ih (n / 10) (by omega) (by omega)
        rw [Nat.toDigits_of_base_le (by decide) (by omega)]
        cases hd : Nat.toDigits 10 (n / 10) with
        | nil => exact absurd hd Nat.toDigits_ne_nil
        | cons c r =>
            rw [hd] at hdiv
            exact hdiv

end Text

end DashKit
