import DashKit.Json.Reader

/-!
# Tokens With More Behind Them

A token that was read is read again when more text follows.

Readers never ask what is behind the token they take, so text that is added at
the end comes out at the end. The one exception is a number that goes up to
the very end: a digit behind it would belong to it, and so would a point or an
exponent. `EndsNumber` is what has to be true of the added text then, and it
is only asked for when nothing was left over.

## Main definitions

* `EndsNumber`: A number in front of this text ends there.
* `Sealed`, `Local`: A scan that goes the same way whatever follows, or
  whatever ends a number.

## Theorems

* `scanText_sealed`: Strings may be followed by anything.
* `scan_local`, `scanNumber_local`: Numbers by what ends them.
-/

namespace DashKit

namespace Json

/-- A scan that goes the same way when more text follows. -/
def Sealed {α : Type} (scan : List Char → Outcome α) : Prop :=
  ∀ ⦃s a rest⦄ (t : List Char), scan s = .ok (a, rest) → scan (s ++ t) = .ok (a, rest ++ t)

/-- A number that stands in front of this text ends there. -/
def EndsNumber (t : List Char) : Prop :=
  ∀ c ∈ t.head?, c.isDigit = false ∧ c ≠ '.' ∧ c ≠ 'e' ∧ c ≠ 'E'

/-- A scan that goes the same way when more text follows, unless it went up to
    the end and what follows would continue a number there. -/
def Local {α : Type} (scan : List Char → Outcome α) : Prop :=
  ∀ ⦃s a rest t⦄, scan s = .ok (a, rest) → rest ≠ [] ∨ EndsNumber t →
    scan (s ++ t) = .ok (a, rest ++ t)

theorem Sealed.isLocal {α : Type} {scan : List Char → Outcome α} (h : Sealed scan) :
    Local scan := by
  intro s a rest t hs _
  exact h t hs

theorem endsNumber_nil : EndsNumber [] := by
  intro c hc
  rw [List.head?_nil] at hc
  exact absurd hc (by simp only [Option.not_mem_none, not_false_eq_true])

/-- What was there before a scan is not empty if what it leaves is not. -/
theorem ne_nil_or_of_length_le {s rest : List Char} {p : Prop} (h : rest.length ≤ s.length)
    (ht : rest ≠ [] ∨ p) : s ≠ [] ∨ p := by
  refine ht.imp_left (fun hne hs => hne ?_)
  rw [hs, List.length_nil, Nat.le_zero, List.length_eq_zero_iff] at h
  exact h

theorem afterGap_append {s r : List Char} {c : Char} (h : afterGap s = c :: r)
    (t : List Char) : afterGap (s ++ t) = c :: (r ++ t) := by
  induction s with
  | nil => simp only [afterGap, List.dropWhile_nil, reduceCtorEq] at h
  | cons d s ih =>
      rw [afterGap, List.dropWhile_cons] at h
      rw [List.cons_append, afterGap, List.dropWhile_cons]
      -- The token stays where it is, as it stands in front of what is added.
      by_cases hd : isGap d = true
      · rw [if_pos hd] at h ⊢
        exact ih h
      · rw [if_neg hd, List.cons.injEq] at h
        rw [if_neg hd, h.1, h.2]

theorem scanWord_append {letters s rest : List Char} (t : List Char)
    (h : scanWord letters s = .ok rest) : scanWord letters (s ++ t) = .ok (rest ++ t) := by
  induction letters generalizing s with
  | nil =>
      simp only [scanWord, Except.ok.injEq] at h ⊢
      rw [h]
  | cons x xs ih =>
      cases s with
      | nil => simp only [scanWord, failBefore, reduceCtorEq] at h
      | cons c r =>
          simp only [scanWord, List.cons_append] at h ⊢
          by_cases hc : c = x
          · rw [if_pos hc] at h ⊢
            exact ih h
          · rw [if_neg hc] at h
            simp only [failAfter, reduceCtorEq] at h

theorem scanKeyword_sealed {α : Type} (letters : String) (value : α) :
    Sealed (scanKeyword letters value) := by
  intro s a rest t h
  unfold scanKeyword at h ⊢
  split at h
  · simp only [reduceCtorEq] at h
  · next hw =>
      simp only [Except.ok.injEq, Prod.mk.injEq] at h
      rw [scanWord_append t hw, h.1, h.2]

theorem hex4?_append {s rest : List Char} {n : Nat} (t : List Char)
    (h : hex4? s = some (n, rest)) :
    hex4? (s ++ t) = some (n, rest ++ t) ∧ (s ++ t).take 4 = s.take 4 := by
  unfold hex4? at h
  split at h
  -- Four characters are there, and they are the same ones in the longer text.
  · next a b c d r =>
      refine ⟨?_, rfl⟩
      simp only [Option.bind_eq_bind, Option.pure_def, Option.bind_eq_some_iff,
        Option.some.injEq, Prod.mk.injEq] at h
      rcases h with ⟨_, ha, _, hb, _, hc, _, hd, hn, hr⟩
      simp only [List.cons_append, hex4?, ha, hb, hc, hd, Option.bind_eq_bind, Option.bind_some,
        Option.pure_def, hn, hr]
  · simp only [reduceCtorEq] at h

theorem scanHex4_sealed : Sealed scanHex4 := by
  intro s n rest t h
  unfold scanHex4 at h ⊢
  -- The bytes of the first four characters are the same, so they are enough both times.
  by_cases hl : (utf8 (s.take 4)).length < 4
  · rw [if_pos hl] at h
    simp only [failBefore, reduceCtorEq] at h
  · rw [if_neg hl] at h
    cases hx : hex4? s with
    | none => simp only [hx, reduceCtorEq] at h
    | some found =>
        simp only [hx, Except.ok.injEq] at h
        subst h
        rcases hex4?_append t hx with ⟨hx, ht⟩
        rw [ht, if_neg hl, hx]

theorem scanMark_append {mark : Char} {s rest : List Char} (t : List Char)
    (h : scanMark mark s = .ok rest) : scanMark mark (s ++ t) = .ok (rest ++ t) := by
  cases s with
  | nil => simp only [scanMark, failBefore, reduceCtorEq] at h
  | cons c r =>
      simp only [scanMark, List.cons_append] at h ⊢
      by_cases hc : c = mark
      · rw [if_pos hc, Except.ok.injEq] at h
        rw [if_pos hc, h]
      · rw [if_neg hc] at h
        simp only [failAfter, reduceCtorEq] at h

theorem scanLowHalf_sealed (high : Nat) : Sealed (scanLowHalf high) := by
  intro s x rest t h
  unfold scanLowHalf at h ⊢
  -- Each step of the scan is sealed, and a failure in any of them would be one here.
  cases h1 : scanMark '\\' s with
  | error e => simp only [h1, bind, Except.bind, reduceCtorEq] at h
  | ok a =>
      cases h2 : scanMark 'u' a with
      | error e => simp only [h1, h2, bind, Except.bind, reduceCtorEq] at h
      | ok b =>
          cases h3 : scanHex4 b with
          | error e => simp only [h1, h2, h3, bind, Except.bind, reduceCtorEq] at h
          | ok c =>
              simp only [h1, h2, h3, scanMark_append t h1, scanMark_append t h2,
                scanHex4_sealed t h3, bind, Except.bind] at h ⊢
              by_cases hlow : isLowHalf c.1 = true
              · rw [if_pos hlow] at h ⊢
                simp only [pure, Except.pure, Except.ok.injEq, Prod.mk.injEq] at h ⊢
                exact ⟨h.1, by rw [h.2]⟩
              · rw [if_neg hlow] at h
                simp only [failBefore, reduceCtorEq] at h

theorem scanCodePoint_sealed (keep : Bool) : Sealed (scanCodePoint keep) := by
  intro s x rest t h
  unfold scanCodePoint at h ⊢
  cases h1 : scanHex4 s with
  | error e => simp only [h1, bind, Except.bind, reduceCtorEq] at h
  | ok a =>
      simp only [h1, scanHex4_sealed t h1, bind, Except.bind] at h ⊢
      split at h
      · simp only [failBefore, reduceCtorEq] at h
      · next hlow =>
          rw [if_neg hlow]
          split at h
          · next hhigh =>
              rw [if_pos hhigh]
              exact scanLowHalf_sealed _ t h
          · next hhigh =>
              rw [if_neg hhigh]
              simp only [pure, Except.pure, Except.ok.injEq, Prod.mk.injEq] at h ⊢
              exact ⟨h.1, by rw [h.2]⟩

theorem scanEscape_sealed (keep : Bool) : Sealed (scanEscape keep) := by
  intro s x rest t h
  cases s with
  | nil => simp only [scanEscape, failBefore, reduceCtorEq] at h
  | cons c r =>
      simp only [scanEscape, List.cons_append] at h ⊢
      by_cases hu : c = 'u'
      · rw [if_pos hu] at h ⊢
        exact scanCodePoint_sealed keep t h
      · rw [if_neg hu] at h ⊢
        cases he : shortEscape? c with
        | none => simp only [he, failAfter, reduceCtorEq] at h
        | some y =>
            simp only [he, Except.ok.injEq, Prod.mk.injEq] at h ⊢
            exact ⟨h.1, by rw [h.2]⟩

/-- Strings end with their quote, so anything may follow. -/
theorem scanText_sealed (keep : Bool) : Sealed (scanText keep) := by
  intro s text rest t h
  -- The cases are those of the scan, and only three of them come to an end.
  fun_induction scanText keep s generalizing text rest with
  | case1 => simp only [failBefore, reduceCtorEq] at h
  | case2 r =>
      simp only [Except.ok.injEq, Prod.mk.injEq] at h
      rw [List.cons_append, scanText, if_pos rfl, h.1, h.2]
  | case3 => simp only [reduceCtorEq] at h
  -- An escape, and the string behind it.
  | case4 r x s he hq ih =>
      rcases consText_eq_ok.1 h with ⟨u, hu, rfl⟩
      rw [List.cons_append, scanText, if_neg hq, if_pos rfl, scanEscape_sealed keep t he]
      exact consText_eq_ok.2 ⟨u, ih hu, rfl⟩
  | case5 => simp only [failAfter, reduceCtorEq] at h
  | case6 => simp only [failBefore, reduceCtorEq] at h
  -- A character that stands for itself.
  | case7 c r hq hb hc ih =>
      rcases consText_eq_ok.1 h with ⟨u, hu, rfl⟩
      rw [List.cons_append, scanText, if_neg hq, if_neg hb, if_neg hc]
      exact consText_eq_ok.2 ⟨u, ih hu, rfl⟩

namespace EndsNumber

variable {t : List Char}

/-- The first character behind a number is no part of it. -/
theorem head_of_cons {c : Char} {r : List Char} (h : EndsNumber (c :: r)) :
    c.isDigit = false ∧ c ≠ '.' ∧ c ≠ 'e' ∧ c ≠ 'E' :=
  h c rfl

theorem of_head {c : Char} {r : List Char} (hd : c.isDigit = false) (hp : c ≠ '.')
    (he : c ≠ 'e') (hE : c ≠ 'E') : EndsNumber (c :: r) := by
  intro d hc
  rw [List.head?_cons, Option.mem_some_iff] at hc
  rw [← hc]
  exact ⟨hd, hp, he, hE⟩

end EndsNumber

/-- Digits that stop before the end, or at something that is no digit, stay
    what they are. -/
theorem digits_append {r t : List Char} (h : r.dropWhile Char.isDigit ≠ [] ∨ EndsNumber t) :
    (r ++ t).takeWhile Char.isDigit = r.takeWhile Char.isDigit ∧
      (r ++ t).dropWhile Char.isDigit = r.dropWhile Char.isDigit ++ t := by
  induction r with
  | nil =>
      rcases h with h | h
      · exact absurd List.dropWhile_nil h
      · cases t with
        | nil => exact ⟨rfl, rfl⟩
        | cons c t =>
            simp only [List.nil_append, List.takeWhile_cons, List.dropWhile_cons,
              h.head_of_cons.1, Bool.false_eq_true, if_false, List.takeWhile_nil,
              List.dropWhile_nil, and_self]
  | cons c r ih =>
      rw [List.dropWhile_cons] at h
      simp only [List.cons_append, List.takeWhile_cons, List.dropWhile_cons]
      by_cases hc : c.isDigit = true
      · rw [if_pos hc] at h
        simp only [hc, if_true, (ih h).1, (ih h).2, and_self]
      · simp only [hc, if_false, Bool.false_eq_true, List.cons_append, and_self]

/-- Whether a digit comes first does not depend on what ends a number. -/
theorem head_isDigit_append {r t : List Char} (h : r ≠ [] ∨ EndsNumber t) :
    (r ++ t).head?.any Char.isDigit = r.head?.any Char.isDigit := by
  -- With no character left over, what follows decides, and it is no digit.
  cases r with
  | nil =>
      rcases h with h | h
      · exact absurd rfl h
      · cases t with
        | nil => rfl
        | cons c t =>
            simp only [List.nil_append, List.head?_cons, Option.any_some, h.head_of_cons.1,
              List.head?_nil, Option.any_none]
  | cons c r => rfl

namespace Literal

variable {s rest t : List Char}

theorem scanInteger_local (atEnd : Cause) : Local (scanInteger atEnd) := by
  intro s digits rest t h ht
  cases s with
  | nil => simp only [scanInteger, failBefore, reduceCtorEq] at h
  | cons c r =>
      simp only [scanInteger, List.cons_append] at h ⊢
      by_cases hz : c = '0'
      -- A lone zero, so there must be no digit behind it.
      · rw [if_pos hz] at h ⊢
        by_cases hd : r.head?.any Char.isDigit = true
        · rw [if_pos hd] at h
          simp only [failAfter, reduceCtorEq] at h
        · rw [if_neg hd, Except.ok.injEq, Prod.mk.injEq] at h
          rw [← h.2] at ht
          rw [head_isDigit_append ht, if_neg hd, h.1, h.2]
      -- Digits as far as they go.
      · rw [if_neg hz] at h ⊢
        by_cases hd : c.isDigit = true
        · rw [if_pos hd, Except.ok.injEq, Prod.mk.injEq] at h
          rw [← h.2] at ht
          rw [if_pos hd, (digits_append ht).1, (digits_append ht).2, h.1, h.2]
        · rw [if_neg hd] at h
          simp only [failAfter, reduceCtorEq] at h

/-- Digits that have to be there stay what they are. -/
theorem scanDigits_append {r : List Char} (hd : r.head?.any Char.isDigit = true)
    (hr : r.dropWhile Char.isDigit = rest) (ht : rest ≠ [] ∨ EndsNumber t) :
    (r ++ t).head?.any Char.isDigit = true ∧
      (r ++ t).takeWhile Char.isDigit = r.takeWhile Char.isDigit ∧
      (r ++ t).dropWhile Char.isDigit = rest ++ t := by
  rw [← hr] at ht
  cases r with
  | nil => simp only [List.head?_nil, Option.any_none, Bool.false_eq_true] at hd
  | cons c r =>
      have hdigits := digits_append ht
      rw [hr] at hdigits
      exact ⟨hd, hdigits⟩

theorem scanFraction_local (atEnd : Cause) : Local (scanFraction atEnd) := by
  intro s f rest t h ht
  -- There is a point with digits behind it, or there is none.
  unfold scanFraction at h
  split at h
  · next r =>
      by_cases hd : r.head?.any Char.isDigit = true
      · rw [if_pos hd, Except.ok.injEq, Prod.mk.injEq] at h
        rcases scanDigits_append hd h.2 ht with ⟨hd, htake, hdrop⟩
        simp only [List.cons_append, scanFraction]
        rw [if_pos hd, htake, hdrop, h.1]
      · rw [if_neg hd] at h
        simp only [failAfter, reduceCtorEq] at h
  · next hpoint =>
      simp only [Except.ok.injEq, Prod.mk.injEq] at h
      rw [← h.2] at ht
      rw [← h.1, ← h.2]
      unfold scanFraction
      split
      · next r hr =>
          -- The point would have to be the first character behind the text.
          cases s with
          | nil =>
              rcases ht with ht | ht
              · exact absurd rfl ht
              · rw [List.nil_append] at hr
                subst hr
                exact absurd rfl ht.head_of_cons.2.1
          | cons c s =>
              rw [List.cons_append, List.cons.injEq] at hr
              exact absurd (by rw [hr.1]) (hpoint s)
      · rfl

theorem scanSign_cons {c : Char} (hp : c ≠ '+') (hm : c ≠ '-') (s : List Char) :
    scanSign (c :: s) = (false, c :: s) := by
  unfold scanSign
  split
  · next r h => exact absurd (List.cons.inj h).1 hp
  · next r h => exact absurd (List.cons.inj h).1 hm
  · rfl

theorem scanSign_append (hs : s ≠ []) :
    scanSign (s ++ t) = ((scanSign s).1, (scanSign s).2 ++ t) := by
  cases s with
  | nil => exact absurd rfl hs
  | cons c s =>
      by_cases hp : c = '+'
      · rw [hp]
        rfl
      · by_cases hm : c = '-'
        · rw [hm]
          rfl
        · rw [List.cons_append, scanSign_cons hp hm, scanSign_cons hp hm]
          rfl

theorem scanExponent_local (atEnd : Cause) : Local (scanExponent atEnd) := by
  intro s x rest t h ht
  cases s with
  | nil =>
      simp only [scanExponent, Except.ok.injEq, Prod.mk.injEq] at h
      rw [← h.2] at ht
      rw [← h.1, ← h.2]
      rcases ht with ht | ht
      · exact absurd rfl ht
      · cases t with
        | nil => rfl
        | cons c t =>
            have hc := ht.head_of_cons.2.2
            simp only [List.nil_append, scanExponent, hc.1, hc.2, or_self, if_false]
  | cons c s =>
      simp only [scanExponent, List.cons_append] at h ⊢
      by_cases hc : c = 'e' ∨ c = 'E'
      · rw [if_pos hc] at h ⊢
        by_cases hd : (scanSign s).2.head?.any Char.isDigit = true
        · rw [if_pos hd, Except.ok.injEq, Prod.mk.injEq] at h
          rcases scanDigits_append hd h.2 ht with ⟨hd', htake, hdrop⟩
          have hs : s ≠ [] := by
            rintro rfl
            simp only [scanSign, List.head?_nil, Option.any_none, Bool.false_eq_true] at hd
          rw [scanSign_append hs, if_pos hd', htake, hdrop, h.1]
        · rw [if_neg hd] at h
          simp only [failAfter, reduceCtorEq] at h
      · rw [if_neg hc, Except.ok.injEq, Prod.mk.injEq] at h
        rw [if_neg hc, h.1, ← h.2, List.cons_append]

/-- A literal stays what it is if it stops before the end, or if what follows
    ends it. -/
theorem scan_local (atEnd : Cause) (minus : Bool) : Local (scan atEnd minus) := by
  intro s l rest t h ht
  unfold scan at h ⊢
  cases h1 : scanInteger atEnd s with
  | error e => simp only [h1, bind, Except.bind, reduceCtorEq] at h
  | ok a =>
      cases h2 : scanFraction atEnd a.2 with
      | error e => simp only [h1, h2, bind, Except.bind, reduceCtorEq] at h
      | ok b =>
          cases h3 : scanExponent atEnd b.2 with
          | error e => simp only [h1, h2, h3, bind, Except.bind, reduceCtorEq] at h
          | ok c =>
              simp only [h1, h2, h3, bind, Except.bind, pure, Except.pure, Except.ok.injEq,
                Prod.mk.injEq] at h
              -- Each part leaves what the next one finds, so none leaves nothing.
              have l2 := scanFraction_length h2
              have l3 := scanExponent_length h3
              rw [h.2] at l3
              have hb := ne_nil_or_of_length_le l3 ht
              have ha := ne_nil_or_of_length_le l2 hb
              rw [← h.2] at ht
              simp only [scanInteger_local atEnd h1 ha, scanFraction_local atEnd h2 hb,
                scanExponent_local atEnd h3 ht, bind, Except.bind, pure, Except.pure, h.1, h.2]

/-- What is left behind a double has no part in it. -/
theorem real_eq_ok {l : Literal} {n : Nat} {scale : Int} {x : Numeral}
    (h : l.real n scale rest = .ok x) (other : List Char) : l.real n scale other = .ok x := by
  unfold real at h ⊢
  cases hx : l.exponent with
  | none =>
      simp only [hx] at h ⊢
      cases hs : scaled n scale with
      | none => simp only [hs, failBefore, reduceCtorEq] at h
      | some y => simpa only [hs] using h
  | some sign =>
      simp only [hx] at h ⊢
      cases ha : absorb exponentLimit 0 sign.2 with
      | mk e unread =>
          simp only [ha] at h ⊢
          -- Only an exponent that fits into its bits moves the point.
          cases unread with
          | nil =>
              cases hs : scaled n (if sign.1 then scale - e else scale + e) with
              | none => simp only [hs, failBefore, reduceCtorEq] at h
              | some y => simpa only [hs] using h
          | cons c unread =>
              by_cases hn : n ≠ 0 ∧ ¬ sign.1 = true
              · simp only [if_pos hn, failBefore, reduceCtorEq] at h
              · simpa only [if_neg hn] using h

/-- What is left behind a number has no part in it. -/
theorem value_eq_ok {l : Literal} {n : Numeral} (h : l.value rest = .ok n)
    (other : List Char) : l.value other = .ok n := by
  unfold value at h ⊢
  cases ha : absorb UInt64.size 0 l.integer with
  | mk m excess =>
      simp only [ha] at h ⊢
      -- A whole number that fits is the one it spells, and any other is scaled.
      by_cases hwhole : l.fraction.isNone ∧ l.exponent.isNone ∧ excess.isEmpty
      · rw [if_pos hwhole] at h ⊢
        exact h
      · rw [if_neg hwhole] at h ⊢
        exact real_eq_ok h other

end Literal

theorem scanUnsigned_local (minus : Bool) : Local (scanUnsigned minus) := by
  intro s n rest t h ht
  unfold scanUnsigned at h
  split at h
  · simp only [reduceCtorEq] at h
  · next l r hl =>
      split at h
      · simp only [reduceCtorEq] at h
      · next hv =>
          simp only [Except.ok.injEq, Prod.mk.injEq] at h
          rcases h with ⟨rfl, rfl⟩
          simp only [scanUnsigned, Literal.scan_local .valueEnded minus hl ht,
            Literal.value_eq_ok hv (r ++ t)]

theorem scanNumber_cons {c : Char} (hm : c ≠ '-') (s : List Char) :
    scanNumber (c :: s) = scanUnsigned false (c :: s) := by
  unfold scanNumber
  split
  · next r h => exact absurd (List.cons.inj h).1 hm
  · rfl

/-- A number stays what it is if it stops before the end, or if what follows
    ends it. -/
theorem scanNumber_local : Local scanNumber := by
  intro s n rest t h ht
  cases s with
  | nil => exact absurd (scanNumber_length h) (Nat.not_lt_zero _)
  | cons c s =>
      by_cases hm : c = '-'
      · subst hm
        exact scanUnsigned_local _ h ht
      · rw [scanNumber_cons hm] at h
        rw [List.cons_append, scanNumber_cons hm]
        exact scanUnsigned_local _ h ht

end Json

end DashKit
