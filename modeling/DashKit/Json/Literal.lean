import DashKit.Json.Failure
import DashKit.Number.Binary64

/-!
# Number Literals

The grammar of a JSON number, and the number it denotes.

A literal is scanned into its parts first, which settles what is well formed,
and only then given a value. Both the reader and the function that passes
over a value use the same scan; they differ only in what they say when the
text ends in the middle of a number, so that is a parameter.

The value is found as a pocket calculator would: digits go into a significand
as long as it stays below `2 ^ 64`, the others only count for the exponent,
and the significand is then scaled once by a power of ten in double
precision.

## Main definitions

* `Literal`: Sign, integer digits, fraction and exponent.
* `Literal.scan`: The longest literal at the front of a text.
* `Literal.value`: The number, unless it is beyond the doubles.

## Theorems

* `Literal.scan_length`: A literal takes at least one character.
-/

namespace DashKit

namespace Json

/-- The parts of a number as written. -/
structure Literal where
  isNegative : Bool
  integer : List Char
  fraction : Option (List Char)
  /-- The exponent's digits, and whether it has a minus. -/
  exponent : Option (Bool × List Char)

namespace Literal

/-- The digits before the point: a lone zero, or any number that does not
    start with one. -/
def scanInteger (atEnd : Cause) : List Char → Outcome (List Char)
  | [] => failBefore atEnd []
  | c :: r =>
      if c = '0' then
        if r.head?.any Char.isDigit then failAfter .badNumber r else .ok (['0'], r)
      else if c.isDigit then .ok (c :: r.takeWhile Char.isDigit, r.dropWhile Char.isDigit)
      else failAfter .badNumber (c :: r)

/-- A point with at least one digit behind it, if there is a point. -/
def scanFraction (atEnd : Cause) : List Char → Outcome (Option (List Char))
  | '.' :: r =>
      if r.head?.any Char.isDigit then
        .ok (some (r.takeWhile Char.isDigit), r.dropWhile Char.isDigit)
      else failAfter (if r.isEmpty then atEnd else .badNumber) r
  | s => .ok (none, s)

/-- A sign in front of an exponent: whether it is a minus, and what is left. -/
def scanSign : List Char → Bool × List Char
  | '+' :: r => (false, r)
  | '-' :: r => (true, r)
  | s => (false, s)

/-- An exponent with at least one digit, if there is its letter. -/
def scanExponent (atEnd : Cause) : List Char → Outcome (Option (Bool × List Char))
  | [] => .ok (none, [])
  | c :: s =>
      if c = 'e' ∨ c = 'E' then
        let (minus, r) := scanSign s
        if r.head?.any Char.isDigit then
          .ok (some (minus, r.takeWhile Char.isDigit), r.dropWhile Char.isDigit)
        else failAfter (if r.isEmpty then atEnd else .badNumber) r
      else .ok (none, c :: s)

/-- The literal at the front of a text, its sign already taken. -/
def scan (atEnd : Cause) (isNegative : Bool) (s : List Char) :
    Except Failure (Literal × List Char) := do
  let (integer, s) ← scanInteger atEnd s
  let (fraction, s) ← scanFraction atEnd s
  let (exponent, s) ← scanExponent atEnd s
  return ({ isNegative, integer, fraction, exponent }, s)

/-- The number a digit stands for. -/
def digit (c : Char) : Nat := c.toNat - '0'.toNat

/-- Digits appended to a number while it stays below a limit, and the digits
    that no longer fit. -/
def absorb (limit : Nat) (n : Nat) : List Char → Nat × List Char
  | [] => (n, [])
  | c :: r =>
      if n * 10 + digit c < limit then absorb limit (n * 10 + digit c) r else (n, c :: r)

/-- The double next to `n * 10 ^ e`, scaled once, or twice where one power of
    ten does not reach. Nothing if the product of the two doubles is too large,
    which the number itself need not be. -/
def scaled (n : Nat) (e : Int) : Option Float :=
  let power (k : Nat) := Float.ofScientific 1 false k
  let x := Float.ofNat n
  if 0 ≤ e then
    if n = 0 then some 0
    else if 308 < e then none
    else if infinityBound ≤ nearestWhole n * nearestWhole (Nat.pow 10 e.toNat) then none
    else some (x * power e.toNat)
  else if -308 ≤ e then some (x / power (-e).toNat)
  else if -616 ≤ e then some (x / power 308 / power (-e - 308).toNat)
  else some 0

/-- A double with the sign of the literal. -/
def signed (literal : Literal) (x : Float) : Numeral :=
  .real (if literal.isNegative then -x else x)

/-- An exponent counts up to what thirty-two bits with a sign hold. -/
def exponentLimit : Nat := 0x80000000

/-- The double that a literal denotes, given its significand and the power of
    ten that its point amounts to. A place for a complaint is in `rest`. -/
def real (literal : Literal) (n : Nat) (scale : Int) (rest : List Char) :
    Except Failure Numeral :=
  let place (e : Int) (spot : List Char) : Except Failure Numeral :=
    match scaled n e with
    | some x => .ok (literal.signed x)
    | none => failBefore .numberTooLarge spot
  match literal.exponent with
  | none => place scale rest
  | some (minus, digits) =>
      match absorb exponentLimit 0 digits with
      | (e, []) => place (if minus then scale - e else scale + e) rest
      -- The exponent itself is too large, so the rest of it is not looked at.
      | (_, _ :: unread) =>
          if n ≠ 0 ∧ ¬ minus then failBefore .numberTooLarge (unread ++ rest)
          else .ok (literal.signed 0)

/-- The greatest magnitude of a negative integer of sixty-four bits. -/
def greatestNegative : Nat := 0x8000000000000000

/-- The number that a literal denotes. -/
def value (literal : Literal) (rest : List Char) : Except Failure Numeral :=
  let (n, excess) := absorb UInt64.size 0 literal.integer
  if literal.fraction.isNone ∧ literal.exponent.isNone ∧ excess.isEmpty then
    -- A zero with a minus is no integer: it has to keep its sign.
    if literal.isNegative then
      .ok (if 0 < n ∧ n ≤ greatestNegative then .negative n else literal.signed (Float.ofNat n))
    else .ok (.natural n)
  else
    -- Digits before the point that did not fit raise the power of ten, digits
    -- behind it that did lower it.
    let fraction := literal.fraction.getD []
    let (n, ignored) := absorb UInt64.size n fraction
    literal.real n ((excess.length : Int) - (fraction.length - ignored.length : Nat)) rest

/-- Scanned digits are taken off the text. -/
theorem scanInteger_length {atEnd : Cause} {s digits rest : List Char}
    (h : scanInteger atEnd s = .ok (digits, rest)) : rest.length < s.length := by
  cases s with
  | nil => simp [scanInteger, failBefore] at h
  | cons c r =>
      simp only [scanInteger, failAfter] at h
      have hd := (List.dropWhile_suffix (l := r) Char.isDigit).length_le
      split at h
      · split at h
        · simp at h
        · simp only [Except.ok.injEq, Prod.mk.injEq] at h
          simp [← h.2]
      · split at h
        · simp only [Except.ok.injEq, Prod.mk.injEq] at h
          rw [← h.2, List.length_cons]
          omega
        · simp at h

/-- A fraction only takes from the text. -/
theorem scanFraction_length {atEnd : Cause} {s rest : List Char} {f : Option (List Char)}
    (h : scanFraction atEnd s = .ok (f, rest)) : rest.length ≤ s.length := by
  unfold scanFraction at h
  split at h
  · next r =>
      have hd := (List.dropWhile_suffix (l := r) Char.isDigit).length_le
      split at h
      · simp only [Except.ok.injEq, Prod.mk.injEq] at h
        rw [← h.2, List.length_cons]
        omega
      · simp [failAfter] at h
  · simp only [Except.ok.injEq, Prod.mk.injEq] at h
    exact Nat.le_of_eq (by rw [h.2])

/-- A sign only takes from the text. -/
theorem scanSign_length (s : List Char) : (scanSign s).2.length ≤ s.length := by
  unfold scanSign
  split <;> simp

/-- An exponent only takes from the text. -/
theorem scanExponent_length {atEnd : Cause} {s rest : List Char}
    {x : Option (Bool × List Char)}
    (h : scanExponent atEnd s = .ok (x, rest)) : rest.length ≤ s.length := by
  cases s with
  | nil => simp only [scanExponent, Except.ok.injEq, Prod.mk.injEq] at h; simp [← h.2]
  | cons c s =>
      simp only [scanExponent] at h
      have hs := scanSign_length s
      have hd := (List.dropWhile_suffix (l := (scanSign s).2) Char.isDigit).length_le
      split at h
      · split at h
        · simp only [Except.ok.injEq, Prod.mk.injEq] at h
          rw [← h.2, List.length_cons]
          omega
        · simp [failAfter] at h
      · simp only [Except.ok.injEq, Prod.mk.injEq] at h
        simp [← h.2]

/-- A literal takes at least one character. -/
theorem scan_length {atEnd : Cause} {negative : Bool} {s rest : List Char} {l : Literal}
    (h : scan atEnd negative s = .ok (l, rest)) : rest.length < s.length := by
  unfold scan at h
  cases h1 : scanInteger atEnd s with
  | error e => simp [h1, bind, Except.bind] at h
  | ok a =>
      cases h2 : scanFraction atEnd a.2 with
      | error e => simp [h1, h2, bind, Except.bind] at h
      | ok b =>
          cases h3 : scanExponent atEnd b.2 with
          | error e => simp [h1, h2, h3, bind, Except.bind] at h
          | ok c =>
              simp only [h1, h2, h3, bind, Except.bind, pure, Except.pure, Except.ok.injEq,
                Prod.mk.injEq] at h
              -- Only the integer digits have to be there.
              have l1 := scanInteger_length h1
              have l2 := scanFraction_length h2
              have l3 := scanExponent_length h3
              rw [← h.2]
              omega

end Literal

end Json

end DashKit
