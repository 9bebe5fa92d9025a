import DashKit.Proofs.Json.Tokens

/-!
# Written Strings and Numbers

Strings and natural numbers are read back from what was written.

A string is read back character by character, since every escape that writing
chooses is one that reading knows: a letter for the characters that have one,
and a code point below a space for the other control characters. A number is
read back digit by digit. The number that its first digits spell never exceeds
the number itself, so none of its digits is left over.

## Theorems

* `scanText_write`: A string is read back up to its closing quote.
* `Literal.absorb_toDigits`: The digits of a number are all taken in.
* `scanNumber_write`: A natural number that fits is read back.
-/

namespace DashKit

namespace Json

theorem length_le_utf8 (s : List Char) : s.length ≤ (utf8 s).length := by
  induction s with
  | nil => exact Nat.le_refl 0
  | cons c s ih =>
      have hc := Char.utf8Size_pos c
      rw [utf8, List.flatMap_cons, List.length_append, String.length_utf8EncodeChar]
      rw [utf8] at ih
      rw [List.length_cons]
      omega

/-- Two digits behind two zeros are read as the number they were made of. -/
theorem scanHex4_writeHex2 {n : Nat} (h : n < 256) (t : List Char) :
    scanHex4 ('0' :: '0' :: (writeHex2 n ++ t)) = .ok (n, t) := by
  -- Four characters have at least four bytes.
  have hbytes : ¬ (utf8 (('0' :: '0' :: (writeHex2 n ++ t)).take 4)).length < 4 := by
    have hle := length_le_utf8 (('0' :: '0' :: (writeHex2 n ++ t)).take 4)
    simp only [writeHex2, List.cons_append, List.take_succ_cons, List.take_zero,
      List.length_cons, List.length_nil] at hle ⊢
    omega
  have hzero : Text.hexDigit? '0' = some 0 := by decide
  -- The two digits behind the zeros make up the number.
  have hhigh := Text.hexDigit?_digitChar (n / 16) (by omega)
  have hlow := Text.hexDigit?_digitChar (n % 16) (by omega)
  have hn : ((0 * 16 + 0) * 16 + n / 16) * 16 + n % 16 = n := by omega
  rw [scanHex4, if_neg hbytes]
  simp only [writeHex2, List.cons_append, List.nil_append, hex4?, hzero, hhigh, hlow,
    Option.bind_eq_bind, Option.bind_some, Option.pure_def, hn]

/-- A control character is read back from its code point. -/
theorem scanEscape_control {c : Char} (h : c < ' ') (t : List Char) :
    scanEscape true ('u' :: '0' :: '0' :: (writeHex2 c.toNat ++ t)) = .ok (c, t) := by
  -- A control character is far below both halves of a pair.
  have hn : c.toNat < 32 := h
  have hlow : isLowHalf c.toNat = false := by
    rw [isLowHalf, Bool.and_eq_false_iff, decide_eq_false_iff_not]
    exact Or.inl (by omega)
  have hhigh : isHighHalf c.toNat = false := by
    rw [isHighHalf, Bool.and_eq_false_iff, decide_eq_false_iff_not]
    exact Or.inl (by omega)
  rw [scanEscape, if_pos rfl, scanCodePoint, scanHex4_writeHex2 (by omega) t]
  simp only [bind, Except.bind, hlow, hhigh, Bool.and_false, Bool.false_eq_true, if_false, pure,
    Except.pure, Char.ofNat_toNat]

/-- What stands for a character in a written string is read back. -/
theorem scanText_writeChar (c : Char) (s : List Char) :
    scanText true (writeChar c ++ s) = consText c (scanText true s) := by
  have hescape : ∀ {x : Char} {r : List Char}, scanEscape true (r ++ s) = .ok (x, s) →
      scanText true ('\\' :: r ++ s) = consText x (scanText true s) := by
    intro x r hx
    rw [List.cons_append, scanText, if_neg (by decide), if_pos rfl, hx]
  -- Seven characters have an escape of their own, the other controls have their number.
  unfold writeChar
  split
  · next h => subst h; exact hescape (by rfl)
  split
  · next h => subst h; exact hescape (by rfl)
  split
  · next h => subst h; exact hescape (by rfl)
  split
  · next h => subst h; exact hescape (by rfl)
  split
  · next h => subst h; exact hescape (by rfl)
  split
  · next h => subst h; exact hescape (by rfl)
  split
  · next h => subst h; exact hescape (by rfl)
  split
  · next hcontrol => exact hescape (scanEscape_control hcontrol s)
  · next hq hb _ _ _ _ _ hcontrol =>
      rw [List.cons_append, List.nil_append, scanText, if_neg hq, if_neg hb, if_neg hcontrol]

/-- A string is read back up to its closing quote. -/
theorem scanText_write (s t : List Char) :
    scanText true (s.flatMap writeChar ++ '"' :: t) = .ok (s, t) := by
  induction s with
  | nil => rw [List.flatMap_nil, List.nil_append, scanText, if_pos rfl]
  | cons c s ih =>
      rw [List.flatMap_cons, List.append_assoc, scanText_writeChar, ih]
      rfl

namespace Literal

/-- Digits in a row are taken in one after the other. -/
theorem absorb_append {limit n m : Nat} {s : List Char} (h : absorb limit n s = (m, []))
    (t : List Char) : absorb limit n (s ++ t) = absorb limit m t := by
  induction s generalizing n with
  | nil =>
      simp only [absorb, Prod.mk.injEq, and_true] at h
      rw [List.nil_append, h]
  | cons c s ih =>
      rw [absorb] at h
      rw [List.cons_append, absorb]
      -- Had the first digit not fitted, something would have been left over.
      by_cases hc : n * 10 + digit c < limit
      · rw [if_pos hc] at h ⊢
        exact ih h
      · rw [if_neg hc] at h
        simp only [Prod.mk.injEq, reduceCtorEq, and_false] at h

theorem digit_digitChar {n : Nat} (h : n < 10) : digit (Nat.digitChar n) = n :=
  Nat.toNat_digitChar_sub_48_of_lt_ten h

/-- The digits of a number below the limit are all taken in. Each digit but
    the last belongs to a smaller number. -/
theorem absorb_toDigits {limit n : Nat} (h : n < limit) :
    absorb limit 0 (Nat.toDigits 10 n) = (n, []) := by
  induction n using Nat.strongRecOn with
  | ind n ih =>
      by_cases hn : n < 10
      · rw [Nat.toDigits_of_lt_base hn, absorb, digit_digitChar hn, Nat.zero_mul, Nat.zero_add,
          if_pos h, absorb]
      · have hdiv := ih (n / 10) (by omega) (by omega)
        have hlast : n / 10 * 10 + n % 10 = n := by omega
        rw [Nat.toDigits_of_base_le (by decide) (by omega), absorb_append hdiv, absorb,
          digit_digitChar (by omega), hlast, if_pos h, absorb]

variable {t : List Char}

/-- The digits of a number are scanned up to what ends it. -/
theorem scanInteger_toDigits (atEnd : Cause) (n : Nat) (ht : EndsNumber t) :
    scanInteger atEnd (Nat.toDigits 10 n ++ t) = .ok (Nat.toDigits 10 n, t) := by
  have hdigits : ∀ c ∈ Nat.toDigits 10 n, c.isDigit = true :=
    fun c hc => Nat.isDigit_of_mem_toDigits (by decide) (by decide) hc
  -- Zero is the one number that starts with a zero, and nothing may follow it.
  by_cases hn : n = 0
  · have hhead := @head_isDigit_append [] t (Or.inr ht)
    rw [List.nil_append, List.head?_nil, Option.any_none] at hhead
    rw [hn, Nat.toDigits_zero, List.cons_append, List.nil_append, scanInteger, if_pos rfl, hhead,
      if_neg Bool.false_ne_true]
  · have hzero := Text.head?_toDigits (Nat.pos_of_ne_zero hn)
    cases hd : Nat.toDigits 10 n with
    | nil => exact absurd hd Nat.toDigits_ne_nil
    | cons c r =>
        rw [hd] at hdigits hzero
        rw [List.head?_cons, ne_eq, Option.some_inj] at hzero
        have hr := fun d hd => hdigits d (List.mem_cons_of_mem _ hd)
        have hrest := @digits_append [] t (Or.inr ht)
        rw [List.nil_append, List.takeWhile_nil, List.dropWhile_nil, List.nil_append] at hrest
        rw [List.cons_append, scanInteger, if_neg hzero, if_pos (hdigits c List.mem_cons_self),
          List.takeWhile_append_of_pos hr, List.dropWhile_append_of_pos hr, hrest.1, hrest.2,
          List.append_nil]

/-- A whole number has no fraction and no exponent. -/
theorem scan_toDigits (atEnd : Cause) (n : Nat) (ht : EndsNumber t) :
    scan atEnd false (Nat.toDigits 10 n ++ t) =
      .ok (⟨false, Nat.toDigits 10 n, none, none⟩, t) := by
  -- What ends a number is neither a point nor the letter of an exponent.
  have hfraction : scanFraction atEnd t = .ok (none, t) :=
    @scanFraction_local atEnd [] none [] t rfl (Or.inr ht)
  have hexponent : scanExponent atEnd t = .ok (none, t) :=
    @scanExponent_local atEnd [] none [] t rfl (Or.inr ht)
  simp only [scan, scanInteger_toDigits atEnd n ht, hfraction, hexponent, bind, Except.bind, pure,
    Except.pure]

end Literal

/-- A natural number is written with a digit in front. -/
theorem toList_text_natural (n : Nat) :
    ∃ c r, (Numeral.natural n).text.toList = c :: r ∧ Nat.toDigits 10 n = c :: r ∧
      c.isDigit = true := by
  have htext : (Numeral.natural n).text.toList = Nat.toDigits 10 n := Nat.toList_repr
  cases hd : Nat.toDigits 10 n with
  | nil => exact absurd hd Nat.toDigits_ne_nil
  | cons c r =>
      refine ⟨c, r, htext.trans hd, rfl, ?_⟩
      refine @Nat.isDigit_of_mem_toDigits 10 n c (by decide) (by decide) ?_
      rw [hd]
      exact List.mem_cons_self

/-- A natural number that fits is read back. -/
theorem scanNumber_write {n : Nat} (h : n < UInt64.size) {t : List Char} (ht : EndsNumber t) :
    scanNumber ((Numeral.natural n).text.toList ++ t) = .ok (.natural n, t) := by
  rcases toList_text_natural n with ⟨c, r, htext, hdigits, hc⟩
  have hminus : c ≠ '-' := by
    rintro rfl
    exact absurd hc (by decide)
  rw [htext, List.cons_append, scanNumber_cons hminus, ← List.cons_append, ← hdigits,
    scanUnsigned, Literal.scan_toDigits _ n ht]
  simp only [Literal.value, Literal.absorb_toDigits h, Option.isNone_none, List.isEmpty_nil,
    and_self, if_true, Bool.false_eq_true, if_false]

end Json

end DashKit
