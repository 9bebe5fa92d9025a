import DashKit.Text.Fields

/-!
# Punycode

Labels of a domain that spell characters beyond ASCII with letters and digits.

Up to its last hyphen such a label holds its ASCII characters as they are.
Behind it stand numbers, each of them a place to insert a character at. The
places are counted through all characters in ascending order and for each
through the whole label, so that one number gives both the character and the
place, as a distance from the number before.

A number is written with its lowest digit first, in base thirty-six, and a
digit below a threshold ends it. The thresholds follow the size of the numbers
so far.

## Main definitions

* `Decoding.step`: One more digit.
* `decode?`: The label that is spelled.
-/

namespace DashKit

namespace Punycode

/-- The value of a digit. -/
def digit? (c : Char) : Option Nat :=
  if 'a' ≤ c ∧ c ≤ 'z' then some (c.toNat - 'a'.toNat)
  else if c.isDigit then some (c.toNat - '0'.toNat + 26)
  else none

/-- The threshold of a digit, `k` digits of weight into its number. -/
def threshold (k bias : Nat) : Nat :=
  if k ≤ bias then 1 else if bias + 26 ≤ k then 26 else k - bias

/-- The bias for distances of about this size, `k` having been gained so far. -/
def biasOf (k distance : Nat) : Nat :=
  if h : 455 < distance then biasOf (k + 36) (distance / 35)
  else k + 36 * distance / (distance + 38)
termination_by distance
decreasing_by exact Nat.div_lt_self (by omega) (by omega)

/-- The bias behind a distance in a label that is now `size` long. The first
    distance also spans the way up to the script. -/
def nextBias (distance size : Nat) (isFirst : Bool) : Nat :=
  let scaled := if isFirst then distance / 700 else distance / 2
  biasOf 0 (scaled + scaled / size)

/-- A label while it is decoded. -/
structure Decoding where
  /-- The label so far. -/
  text : List Char
  /-- The code point that was inserted last. -/
  code : Nat := 0x80
  /-- The place from which the next distance counts. -/
  place : Nat := 0
  bias : Nat := 72
  /-- The part of the distance that its digits so far amount to. -/
  distance : Nat := 0
  /-- What the next digit counts for. -/
  weight : Nat := 1
  /-- How far into its number the next digit stands. -/
  k : Nat := 36

namespace Decoding

/-- A character inserted where a complete distance leads to. -/
def insert (s : Decoding) (distance : Nat) : Option Decoding :=
  let size := s.text.length + 1
  let target := s.place + distance
  let code := s.code + target / size
  let place := target % size
  if code.isValidChar then
    some
      { text := s.text.insertIdx place (Char.ofNat code)
        code
        place := place + 1
        bias := nextBias distance size (s.place == 0) }
  else none

/-- One more digit. -/
def step (s : Decoding) (c : Char) : Option Decoding :=
  match digit? c with
  | none => none
  | some d =>
      let distance := s.distance + d * s.weight
      let t := threshold s.k s.bias
      if d < t then s.insert distance
      else some { s with distance, weight := s.weight * (36 - t), k := s.k + 36 }

/-- Nothing of a distance stands at the end. -/
def isComplete (s : Decoding) : Bool := s.k == 36

end Decoding

/-- The label that is spelled, when it is spelled correctly. -/
def decode? (s : List Char) : Option (List Char) :=
  let (text, digits) :=
    match Text.splitFirst '-' s.reverse with
    | some (back, c :: front) => ((c :: front).reverse, back.reverse)
    | _ => ([], s)
  match digits.foldlM Decoding.step { text } with
  | some s => if s.isComplete then some s.text else none
  | none => none

end Punycode

end DashKit
