import DashKit.Json.Bracketed

/-!
# Values That Nobody Asked For

Passing over a value without reading it.

A record may have entries under keys that mean nothing to it. Their values
have to be well formed and are otherwise ignored: strings are not decoded,
numbers may be of any size, and brackets may be nested to any depth. For the
last of these the open brackets are kept in a list of frames, and one loop
walks through the tokens until the list is empty again.

Between two tokens the loop is in one of three phases. A value has to follow;
a bracket was just opened, so it may also close at once; or a value was just
finished, so the innermost frame decides what may come next.

## Main definitions

* `Bracket`: The two kinds of frames.
* `Phase`: What may come next.
* `pass`: The loop.
* `Reader.anything`: A reader that passes over one value.

## Theorems

* `pass_length`: What is passed over is taken off the text.
-/

namespace DashKit

namespace Json

/-- The kind of an open bracket. -/
inductive Bracket
  | list
  | record
  deriving DecidableEq, Repr

namespace Bracket

/-- The character that closes a bracket. -/
def closer : Bracket → Char
  | list => listEnd
  | record => recordEnd

/-- The complaint when the text ends inside a bracket. -/
def ended : Bracket → Cause
  | list => .listEnded
  | record => .recordEnded

/-- The complaint when something other than a comma follows an item. -/
def separatorExpected : Bracket → Cause
  | list => .listSeparatorExpected
  | record => .recordSeparatorExpected

end Bracket

/-- What may come next while a value is passed over. -/
inductive Phase
  /-- A value. -/
  | value
  /-- An item or the end of the bracket that was just opened. -/
  | opened (bracket : Bracket)
  /-- A comma or the end of the innermost bracket. -/
  | closed
  deriving DecidableEq, Repr

/-- Only the phase behind an opening bracket may take nothing from the text. -/
def Phase.rank : Phase → Nat
  | value => 0
  | opened _ => 1
  | closed => 0

/-- Passes over a value without brackets that starts with `c`. -/
def passScalar (c : Char) (r : List Char) : Except Failure (List Char) :=
  if c = 'n' then scanWord ['u', 'l', 'l'] r
  else if c = 't' then scanWord ['r', 'u', 'e'] r
  else if c = 'f' then scanWord ['a', 'l', 's', 'e'] r
  else if startsNumber c then
    (Literal.scan .badNumber (c == '-') (if c = '-' then r else c :: r)).map Prod.snd
  else if c = '"' then (scanText false r).map Prod.snd
  else failAfter .valueExpected (c :: r)

/-- A value without brackets takes its first character. -/
theorem passScalar_length {c : Char} {r rest : List Char} (h : passScalar c r = .ok rest) :
    rest.length ≤ r.length := by
  unfold passScalar at h
  split at h
  · exact scanWord_length h
  · split at h
    · exact scanWord_length h
    · split at h
      · exact scanWord_length h
      · split at h
        · cases hl : Literal.scan .badNumber (c == '-') (if c = '-' then r else c :: r) with
          | error e => simp [hl, Except.map] at h
          | ok a =>
              obtain ⟨literal, t⟩ := a
              have l := Literal.scan_length hl
              simp only [hl, Except.map, Except.ok.injEq] at h
              rw [h] at l
              split at l
              · exact Nat.le_of_lt l
              · exact Nat.le_of_lt_succ l
        · split at h
          · cases ht : scanText false r with
            | error e => simp [ht, Except.map] at h
            | ok a =>
                obtain ⟨text, t⟩ := a
                have l := scanText_length ht
                simp only [ht, Except.map, Except.ok.injEq] at h
                rw [← h]
                exact Nat.le_of_lt l
          · simp [failAfter] at h

/-- Passes over what stands in front of the value of an item: nothing in a
    list, a key and its colon in a record. -/
def passKey (bracket : Bracket) (s : List Char) : Except Failure (List Char) :=
  match bracket with
  | .list => .ok s
  | .record =>
      match afterGap s with
      | [] => failAfter .recordEnded []
      | '"' :: r =>
          match scanText false r with
          | .error e => .error e
          | .ok (_, rest) => scanColon rest
      | t => failAfter .keyNotText t

/-- A key only takes from the text. -/
theorem passKey_length {bracket : Bracket} {s rest : List Char}
    (h : passKey bracket s = .ok rest) : rest.length ≤ s.length := by
  cases bracket with
  | list =>
      simp only [passKey, Except.ok.injEq] at h
      simp [h]
  | record =>
      simp only [passKey] at h
      have hs := afterGap_length s
      split at h
      · simp [failAfter] at h
      · next r hg =>
          split at h
          · simp at h
          · next ht =>
              have l1 := scanText_length ht
              have l2 := scanColon_length h
              rw [hg, List.length_cons] at hs
              omega
      · simp [failAfter] at h

/-- Passes over the rest of a value, given the brackets that are still open,
    the innermost first. -/
def pass (phase : Phase) (frames : List Bracket) (s : List Char) :
    Except Failure (List Char) :=
  match phase, frames with
  | .closed, [] => .ok s
  | .closed, bracket :: outer =>
      match _hg : afterGap s with
      | [] => failAfter bracket.ended []
      | c :: r =>
          if c = ',' then
            match _hk : passKey bracket r with
            | .error e => .error e
            | .ok t => pass .value (bracket :: outer) t
          else if c = bracket.closer then pass .closed outer r
          else failAfter bracket.separatorExpected (c :: r)
  | .opened bracket, frames =>
      match _hg : afterGap s with
      | [] => failAfter bracket.ended []
      | c :: r =>
          if c = bracket.closer then pass .closed frames r
          else
            match _hk : passKey bracket (c :: r) with
            | .error e => .error e
            | .ok t => pass .value (bracket :: frames) t
  | .value, frames =>
      match _hg : afterGap s with
      | [] => failAfter .valueEnded []
      | c :: r =>
          if c = '[' then pass (.opened .list) frames r
          else if c = '\x7b' then pass (.opened .record) frames r
          else
            match _hk : passScalar c r with
            | .error e => .error e
            | .ok t => pass .closed frames t
  -- Every round takes a character, except the one from an opening bracket to
  -- the first item behind it; that one goes to a phase of lower rank.
  termination_by 2 * s.length + phase.rank
  decreasing_by
    all_goals
      have hs := afterGap_length s
      rw [_hg, List.length_cons] at hs
      simp only [Phase.rank]
      try have hk := passKey_length _hk
      try have hk := passScalar_length _hk
      try rw [List.length_cons] at hk
      omega

/-- Passing over a value takes from the text, and at least one character
    where a value has to follow. -/
theorem pass_length {phase : Phase} {frames : List Bracket} {s rest : List Char}
    (h : pass phase frames s = .ok rest) :
    rest.length ≤ s.length ∧ (phase = .value → rest.length < s.length) := by
  fun_induction pass phase frames s with
  | case1 s =>
      simp only [Except.ok.injEq] at h
      simp [h]
  | case2 => simp [failAfter] at h
  | case3 => simp at h
  -- A comma and, in a record, the next key.
  | case4 s bracket outer r t hk hg ih =>
      have hs := afterGap_length s
      have l := passKey_length hk
      have := (ih h).1
      rw [hg, List.length_cons] at hs
      refine ⟨by omega, fun hp => ?_⟩
      simp at hp
  -- The innermost bracket closes.
  | case5 s bracket outer r hg _ ih =>
      have hs := afterGap_length s
      have := (ih h).1
      rw [hg, List.length_cons] at hs
      refine ⟨by omega, fun hp => ?_⟩
      simp at hp
  | case6 => simp [failAfter] at h
  | case7 => simp [failAfter] at h
  -- A bracket closes right after it was opened.
  | case8 s bracket frames r hg ih =>
      have hs := afterGap_length s
      have := (ih h).1
      rw [hg, List.length_cons] at hs
      refine ⟨by omega, fun hp => ?_⟩
      simp at hp
  | case9 => simp at h
  -- The first item of a bracket, or its key.
  | case10 s bracket frames c r hg _ t hk ih =>
      have hs := afterGap_length s
      have l := passKey_length hk
      have := (ih h).1
      rw [hg] at hs
      refine ⟨by omega, fun hp => ?_⟩
      simp at hp
  | case11 => simp [failAfter] at h
  -- A value that opens a list or a record.
  | case12 s frames r hg ih =>
      have hs := afterGap_length s
      have := (ih h).1
      rw [hg, List.length_cons] at hs
      refine ⟨by omega, fun _ => by omega⟩
  | case13 s frames r hg _ ih =>
      have hs := afterGap_length s
      have := (ih h).1
      rw [hg, List.length_cons] at hs
      refine ⟨by omega, fun _ => by omega⟩
  | case14 => simp at h
  -- A value without brackets.
  | case15 s frames c r hg _ _ t hk ih =>
      have hs := afterGap_length s
      have l := passScalar_length hk
      have := (ih h).1
      rw [hg, List.length_cons] at hs
      refine ⟨by omega, fun _ => by omega⟩

/-- Any value, passed over. -/
def Reader.anything : Reader Unit where
  run s := (pass .value [] s).map fun rest => ((), rest)
  shrinks := by
    intro s a rest h
    cases hp : pass .value [] s with
    | error e => simp [hp, Except.map] at h
    | ok t =>
        simp only [hp, Except.map, Except.ok.injEq, Prod.mk.injEq, true_and] at h
        rw [← h]
        exact (pass_length hp).2 rfl

end Json

end DashKit
