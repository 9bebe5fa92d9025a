import DashKit.Json.Failure
import DashKit.Text.Digits

/-!
# JSON Strings

Reading and writing the strings of a JSON text.

Writing escapes the quote, the backslash and the control characters, and
leaves all else as it is. Reading accepts every escape of the format. A code
point beyond the first plane arrives as two escaped halves, and a half that
stands alone is refused, because no character corresponds to it.

A string inside a value that nobody asked for is only passed over. Its halves
need not match then, and a control character in it is complained about where
it stands rather than behind it; the parameter `keep` says which of the two
is meant.

## Main definitions

* `scanEscape`: What stands behind a backslash.
* `scanText`: A string up to and with its closing quote.
* `writeText`: A string with its quotes.

## Theorems

* `scanText_length`: A string takes at least its closing quote.
-/

namespace DashKit

namespace Json

/-- The number that four hexadecimal digits spell. -/
def hex4? : List Char → Option (Nat × List Char)
  | a :: b :: c :: d :: r => do
      let a ← Text.hexDigit? a
      let b ← Text.hexDigit? b
      let c ← Text.hexDigit? c
      let d ← Text.hexDigit? d
      return (((a * 16 + b) * 16 + c) * 16 + d, r)
  | _ => none

/-- The number that the next four bytes spell. Fewer than four bytes are the
    end of the text, not a bad escape. -/
def scanHex4 (s : List Char) : Outcome Nat :=
  if (utf8 (s.take 4)).length < 4 then failBefore .textEnded []
  else
    match hex4? s with
    | some found => .ok found
    | none => .error (.placed .badEscape ⟨s, 4⟩)

/-- The first half of a character beyond the first plane. -/
def isHighHalf (n : Nat) : Bool := 0xD800 ≤ n && n < 0xDC00

/-- The second half of a character beyond the first plane. -/
def isLowHalf (n : Nat) : Bool := 0xDC00 ≤ n && n < 0xE000

/-- The character whose two halves these are. -/
def joinHalves (high low : Nat) : Char :=
  Char.ofNat (0x10000 + (high - 0xD800) * 0x400 + (low - 0xDC00))

/-- A character that has to follow the first half of another. -/
def scanMark (mark : Char) : List Char → Except Failure (List Char)
  | [] => failBefore .textEnded []
  | c :: r => if c = mark then .ok r else failAfter .escapeCutShort (c :: r)

/-- The second half of a character, with its own backslash and letter. -/
def scanLowHalf (high : Nat) (s : List Char) : Except Failure (Char × List Char) := do
  let s ← scanMark '\\' s
  let s ← scanMark 'u' s
  let (low, s) ← scanHex4 s
  if isLowHalf low then return (joinHalves high low, s)
  else failBefore .loneSurrogate s

/-- A character by code point, its backslash and letter already taken. -/
def scanCodePoint (keep : Bool) (s : List Char) : Except Failure (Char × List Char) := do
  let (n, s) ← scanHex4 s
  if keep && isLowHalf n then failBefore .loneSurrogate s
  else if keep && isHighHalf n then scanLowHalf n s
  else return (Char.ofNat n, s)

/-- The characters with an escape of one letter. -/
def shortEscape? : Char → Option Char
  | '"' => some '"'
  | '\\' => some '\\'
  | '/' => some '/'
  | 'b' => some '\x08'
  | 'f' => some '\x0c'
  | 'n' => some '\n'
  | 'r' => some '\r'
  | 't' => some '\t'
  | _ => none

/-- The character that an escape stands for, its backslash already taken. -/
def scanEscape (keep : Bool) : List Char → Except Failure (Char × List Char)
  | [] => failBefore .textEnded []
  | c :: r =>
      if c = 'u' then scanCodePoint keep r
      else
        match shortEscape? c with
        | some x => .ok (x, r)
        | none => failAfter .badEscape (c :: r)

/-- Four digits are taken off the text. -/
theorem scanHex4_length {s rest : List Char} {n : Nat} (h : scanHex4 s = .ok (n, rest)) :
    rest.length ≤ s.length := by
  unfold scanHex4 at h
  split at h
  · simp [failBefore] at h
  · split at h
    · next found hf =>
        simp only [Except.ok.injEq] at h
        subst h
        unfold hex4? at hf
        split at hf
        · simp only [Option.bind_eq_bind, Option.pure_def, Option.bind_eq_some_iff,
            Option.some.injEq, Prod.mk.injEq] at hf
          -- Each of the four digits has a value.
          obtain ⟨_, _, _, _, _, _, _, _, _, rfl⟩ := hf
          simp only [List.length_cons]
          omega
        · simp at hf
    · simp at h

/-- A mark is taken off the text. -/
theorem scanMark_length {mark : Char} {s rest : List Char} (h : scanMark mark s = .ok rest) :
    rest.length ≤ s.length := by
  cases s with
  | nil => simp [scanMark, failBefore] at h
  | cons c r =>
      simp only [scanMark] at h
      split at h
      · simp only [Except.ok.injEq] at h
        simp [← h]
      · simp [failAfter] at h

/-- A second half only takes from the text. -/
theorem scanLowHalf_length {high : Nat} {s rest : List Char} {x : Char}
    (h : scanLowHalf high s = .ok (x, rest)) : rest.length ≤ s.length := by
  unfold scanLowHalf at h
  cases h1 : scanMark '\\' s with
  | error e => simp [h1, bind, Except.bind] at h
  | ok a =>
      cases h2 : scanMark 'u' a with
      | error e => simp [h1, h2, bind, Except.bind] at h
      | ok b =>
          cases h3 : scanHex4 b with
          | error e => simp [h1, h2, h3, bind, Except.bind] at h
          | ok c =>
              simp only [h1, h2, h3, bind, Except.bind] at h
              have l1 := scanMark_length h1
              have l2 := scanMark_length h2
              have l3 := scanHex4_length h3
              split at h
              · simp only [pure, Except.pure, Except.ok.injEq, Prod.mk.injEq] at h
                rw [← h.2]
                omega
              · simp [failBefore] at h

/-- A code point only takes from the text. -/
theorem scanCodePoint_length {keep : Bool} {s rest : List Char} {x : Char}
    (h : scanCodePoint keep s = .ok (x, rest)) : rest.length ≤ s.length := by
  unfold scanCodePoint at h
  cases h1 : scanHex4 s with
  | error e => simp [h1, bind, Except.bind] at h
  | ok a =>
      simp only [h1, bind, Except.bind] at h
      have l1 := scanHex4_length h1
      split at h
      · simp [failBefore] at h
      · split at h
        · exact Nat.le_trans (scanLowHalf_length h) l1
        · simp only [pure, Except.pure, Except.ok.injEq, Prod.mk.injEq] at h
          rw [← h.2]
          exact l1

/-- An escape takes at least one character. -/
theorem scanEscape_length {keep : Bool} {s rest : List Char} {x : Char}
    (h : scanEscape keep s = .ok (x, rest)) : rest.length < s.length := by
  cases s with
  | nil => simp [scanEscape, failBefore] at h
  | cons c r =>
      simp only [scanEscape] at h
      split at h
      · exact Nat.lt_succ_of_le (scanCodePoint_length h)
      · split at h
        · simp only [Except.ok.injEq, Prod.mk.injEq] at h
          simp [← h.2]
        · simp [failAfter] at h

/-- A character in front of a string that was read. -/
def consText (x : Char) (read : Outcome (List Char)) : Outcome (List Char) :=
  read.map fun (text, rest) => (x :: text, rest)

/-- The string up to and with its closing quote, its opening quote already
    taken. -/
def scanText (keep : Bool) : List Char → Outcome (List Char)
  | [] => failBefore .textEnded []
  | c :: r =>
      if c = '"' then .ok ([], r)
      else if c = '\\' then
        match _hs : scanEscape keep r with
        | .error e => .error e
        | .ok (x, s) => consText x (scanText keep s)
      else if c < ' ' then
        -- A string that is kept has taken the character before it complains.
        if keep then failAfter .controlCharacter (c :: r)
        else failBefore .controlCharacter (c :: r)
      else consText c (scanText keep r)
  termination_by s => s.length
  decreasing_by
    · have := scanEscape_length _hs
      simp only [List.length_cons]
      omega
    · simp only [List.length_cons]
      omega

/-- A character in front does not change what is left. -/
theorem consText_eq_ok {x : Char} {read : Outcome (List Char)} {text rest : List Char} :
    consText x read = .ok (text, rest) ↔ ∃ t, read = .ok (t, rest) ∧ text = x :: t := by
  cases read with
  | error e => simp [consText, Except.map]
  | ok a =>
      obtain ⟨t, r⟩ := a
      simp only [consText, Except.map, Except.ok.injEq, Prod.mk.injEq]
      constructor
      · rintro ⟨rfl, rfl⟩
        exact ⟨t, ⟨rfl, rfl⟩, rfl⟩
      · rintro ⟨t', ⟨rfl, rfl⟩, rfl⟩
        exact ⟨rfl, rfl⟩

/-- A string takes at least its closing quote. -/
theorem scanText_length {keep : Bool} {s text rest : List Char}
    (h : scanText keep s = .ok (text, rest)) : rest.length < s.length := by
  fun_induction scanText keep s generalizing text rest with
  | case1 => simp [failBefore] at h
  | case2 r =>
      simp only [Except.ok.injEq, Prod.mk.injEq] at h
      simp [← h.2]
  | case3 => simp at h
  | case4 r x s hs _ ih =>
      obtain ⟨t, ht, _⟩ := consText_eq_ok.1 h
      have l1 := scanEscape_length hs
      have l2 := ih ht
      simp only [List.length_cons]
      omega
  | case5 => simp [failAfter] at h
  | case6 => simp [failBefore] at h
  | case7 c r _ _ _ ih =>
      obtain ⟨t, ht, _⟩ := consText_eq_ok.1 h
      have l := ih ht
      simp only [List.length_cons]
      omega

/-- Two hexadecimal digits, lower case, of a number below 256. -/
def writeHex2 (n : Nat) : List Char :=
  [Nat.digitChar (n / 16), Nat.digitChar (n % 16)]

/-- A character as it stands in a written string. -/
def writeChar (c : Char) : List Char :=
  if c = '"' then ['\\', '"']
  else if c = '\\' then ['\\', '\\']
  else if c = '\x08' then ['\\', 'b']
  else if c = '\x0c' then ['\\', 'f']
  else if c = '\n' then ['\\', 'n']
  else if c = '\r' then ['\\', 'r']
  else if c = '\t' then ['\\', 't']
  else if c < ' ' then ['\\', 'u', '0', '0'] ++ writeHex2 c.toNat
  else [c]

/-- A string with its quotes. -/
def writeText (s : List Char) : List Char :=
  '"' :: s.flatMap writeChar ++ ['"']

end Json

end DashKit
