import DashKit.Proofs.Json.Form
import DashKit.Proofs.Json.ReadBack

/-!
# Tokens of Any Spelling

What the scanners make of strings and numbers however they are written.

A written value is one of many texts for the same thing, and a caller may send
any of them. The lemmas here say of each scanner what it finds in front of a
text, by the form and not by the characters. Strings are either found, with
the characters that they spell, or refused because of a half that stands
alone; where they are only passed over, nothing is refused. Numbers are always
found, if what follows does not continue them.

Whether something is found must not depend on what follows. `Finds` puts the
two outcomes into one equation, so that the next scanner can be computed from
it.

## Main definitions

* `Finds`: A scan finds something in front of a text, or fails.
* `Digits.value`: The number that digits spell.
* `NumberForm.Spells`: A number that is written in digits.
* `Form.opener`: What the text of a form may begin with.

## Theorems

* `finds_scanText`, `scanText_passed`: Strings that are kept or passed over.
* `finds_scanNumber`: Numbers.
* `NumberForm.value_eq_natural`: Which numbers are natural ones.
* `Form.starts`: No form begins with a blank or the end of a bracket.
-/

namespace DashKit

namespace Json

/-- A scan finds something and leaves the text behind it, or there is nothing
    to be found and the scan fails. -/
def Finds {α : Type} (outcome : Outcome α) (found : Option α) (t : List Char) : Prop :=
  outcome.toOption = found.map fun a => (a, t)

namespace Finds

variable {α : Type} {outcome : Outcome α} {t : List Char}

theorem some_iff {a : α} : Finds outcome (some a) t ↔ outcome = .ok (a, t) := by
  cases outcome with
  | error e => simp only [Finds, Except.toOption, Option.map_some, reduceCtorEq]
  | ok found =>
      simp only [Finds, Except.toOption, Option.map_some, Option.some.injEq, Except.ok.injEq]

theorem none_iff : Finds outcome none t ↔ ∃ e, outcome = .error e := by
  cases outcome with
  | error e => simp only [Finds, Except.toOption, Option.map_none, Except.error.injEq, exists_eq']
  | ok found => simp only [Finds, Except.toOption, Option.map_none, reduceCtorEq, exists_false]

theorem error (e : Failure) : Finds (.error e : Outcome α) none t := rfl

/-- Either way, what a scan comes to is known. -/
theorem split {found : Option α} (h : Finds outcome found t) :
    (found = none ∧ ∃ e, outcome = .error e) ∨ ∃ a, found = some a ∧ outcome = .ok (a, t) := by
  cases found with
  | none => exact .inl ⟨rfl, none_iff.mp h⟩
  | some a => exact .inr ⟨a, rfl, some_iff.mp h⟩

/-- What is found is what the scan returns, whatever that is. -/
theorem iff_ok {found : Option α} :
    Finds outcome found t ↔ ∀ a u, outcome = .ok (a, u) ↔ found = some a ∧ u = t := by
  constructor
  · intro h a u
    rcases h.split with ⟨rfl, e, rfl⟩ | ⟨b, rfl, rfl⟩
    · simp only [reduceCtorEq, false_and]
    · simp only [Except.ok.injEq, Prod.mk.injEq, Option.some.injEq, eq_comm]
  · intro h
    cases found with
    | some a => exact some_iff.mpr ((h a t).mpr ⟨rfl, rfl⟩)
    | none =>
        cases outcome with
        | error e => exact error e
        | ok pair => exact absurd ((h pair.1 pair.2).mp rfl).1 (Option.some_ne_none _).symm

end Finds

/-! ### Blanks -/

theorem afterGap_gap (gap : Gap) (s : List Char) : afterGap (gap.chars ++ s) = afterGap s :=
  List.dropWhile_append_of_pos gap.blank

theorem afterGap_cons {c : Char} (hc : isGap c = false) (s : List Char) :
    afterGap (c :: s) = c :: s := by
  rw [afterGap, List.dropWhile_cons, hc]
  rfl

theorem afterGap_token (gap : Gap) {c : Char} (hc : isGap c = false) (s : List Char) :
    afterGap (gap.chars ++ c :: s) = c :: s :=
  (afterGap_gap gap _).trans (afterGap_cons hc s)

/-- Blanks end a number, and so does what ends one behind them. -/
theorem endsNumber_gap (gap : Gap) {t : List Char} (ht : EndsNumber t) :
    EndsNumber (gap.chars ++ t) := by
  cases hgap : gap.chars with
  | nil => exact ht
  | cons c r =>
      have hc : isGap c = true := gap.blank c (hgap ▸ List.mem_cons_self)
      simp only [isGap, Bool.or_eq_true, beq_iff_eq] at hc
      rcases hc with ((rfl | rfl) | rfl) | rfl <;>
        exact .of_head (by decide) (by decide) (by decide) (by decide)

/-! ### Strings -/

/-- Four digits are found, as four characters have at least four bytes. -/
theorem scanHex4_digits {digits : List Char} {n : Nat} (h : hex4? digits = some (n, []))
    (t : List Char) : scanHex4 (digits ++ t) = .ok (n, t) := by
  -- Alone the digits are found, and then also in front of other text.
  have hdigits : scanHex4 digits = .ok (n, []) := by
    have hlength : digits.length = 4 := by
      unfold hex4? at h
      split at h
      · next r =>
          simp only [Option.bind_eq_bind, Option.pure_def, Option.bind_eq_some_iff,
            Option.some.injEq, Prod.mk.injEq] at h
          rcases h with ⟨_, _, _, _, _, _, _, _, _, rfl⟩
          rfl
      · exact absurd h (Option.some_ne_none _).symm
    have hbytes := length_le_utf8 (digits.take 4)
    rw [List.length_take, hlength] at hbytes
    rw [scanHex4, if_neg (by omega), h]
  exact scanHex4_sealed t hdigits

theorem scanText_plain (keep : Bool) {c : Char} (h : ' ' ≤ c ∧ c ≠ '"' ∧ c ≠ '\\')
    (s : List Char) : scanText keep (c :: s) = consText c (scanText keep s) := by
  rw [scanText, if_neg h.2.1, if_neg h.2.2, if_neg (Char.not_lt.mpr h.1)]

theorem scanText_escape {keep : Bool} {r s : List Char} {x : Char}
    (h : scanEscape keep r = .ok (x, s)) :
    scanText keep ('\\' :: r) = consText x (scanText keep s) := by
  rw [scanText, if_neg (by decide), if_pos rfl]
  split
  · next he => exact absurd (h.symm.trans he) (by simp only [reduceCtorEq, not_false_eq_true])
  · next he =>
      rw [h, Except.ok.injEq, Prod.mk.injEq] at he
      rw [he.1, he.2]

theorem scanText_escape_error {keep : Bool} {r : List Char} {e : Failure}
    (h : scanEscape keep r = .error e) : scanText keep ('\\' :: r) = .error e := by
  rw [scanText, if_neg (by decide), if_pos rfl]
  split
  · next he => rw [Except.error.inj (he.symm.trans h)]
  · next he => exact absurd (h.symm.trans he) (by simp only [reduceCtorEq, not_false_eq_true])

/-- The letter of a code unit is no escape of one letter. -/
theorem ne_u_of_shortEscape {letter c : Char} (h : shortEscape? letter = some c) :
    letter ≠ 'u' := by
  rintro rfl
  have hnone : shortEscape? 'u' = none := rfl
  exact absurd (hnone.symm.trans h) (Option.some_ne_none c).symm

theorem scanEscape_short (keep : Bool) {letter c : Char} (h : shortEscape? letter = some c)
    (s : List Char) : scanEscape keep (letter :: s) = .ok (c, s) := by
  simp only [scanEscape, if_neg (ne_u_of_shortEscape h), h]

theorem scanEscape_unit (keep : Bool) {digits : List Char} {n : Nat}
    (h : hex4? digits = some (n, [])) (s : List Char) :
    scanEscape keep ('u' :: (digits ++ s)) =
      if keep && isLowHalf n then failBefore .loneSurrogate s
      else if keep && isHighHalf n then scanLowHalf n s
      else .ok (Char.ofNat n, s) := by
  simp only [scanEscape, if_true, scanCodePoint, scanHex4_digits h s, bind, Except.bind, pure,
    Except.pure]

theorem scanLowHalf_unit (high : Nat) {digits : List Char} {n : Nat}
    (h : hex4? digits = some (n, [])) (s : List Char) :
    scanLowHalf high ('\\' :: 'u' :: (digits ++ s)) =
      if isLowHalf n then .ok (joinHalves high n, s) else failBefore .loneSurrogate s := by
  simp only [scanLowHalf, scanMark, if_true, scanHex4_digits h s, bind, Except.bind, pure,
    Except.pure]

/-- Where no code unit follows a half, the other half is missing. -/
theorem scanLowHalf_other (high : Nat) {pieces : List Piece}
    (h : ∀ digits n hn others, pieces ≠ .unit digits n hn :: others) (t : List Char) :
    ∃ e, scanLowHalf high (pieces.flatMap Piece.text ++ '"' :: t) = .error e := by
  cases pieces with
  | nil => exact ⟨_, rfl⟩
  | cons piece pieces =>
      cases piece with
      | plain c hc =>
          simp only [List.flatMap_cons, Piece.text, List.cons_append, List.nil_append, scanLowHalf,
            scanMark, if_neg hc.2.2]
          exact ⟨_, rfl⟩
      | short letter c hc =>
          simp only [List.flatMap_cons, Piece.text, List.cons_append, List.nil_append, scanLowHalf,
            scanMark, if_true, bind, Except.bind, if_neg (ne_u_of_shortEscape hc)]
          exact ⟨_, rfl⟩
      | unit digits n hn => exact absurd rfl (h digits n hn pieces)

theorem finds_consText {x : Char} {read : Outcome (List Char)} {found : Option (List Char)}
    {t : List Char} (h : Finds read found t) : Finds (consText x read) (found.map (x :: ·)) t := by
  rcases h.split with ⟨rfl, e, rfl⟩ | ⟨text, rfl, rfl⟩
  · exact Finds.error e
  · exact Finds.some_iff.mpr rfl

/-- A string that is kept is found with the characters that it spells. -/
theorem finds_scanText (pieces : List Piece) (t : List Char) :
    Finds (scanText true (pieces.flatMap Piece.text ++ '"' :: t)) (spelling? pieces) t := by
  -- The cases are those of the spelling, where halves of a pair are told apart.
  fun_induction spelling? pieces with
  | case1 =>
      rw [List.flatMap_nil, List.nil_append, scanText, if_pos rfl]
      exact Finds.some_iff.mpr rfl
  | case2 c hc pieces ih =>
      simp only [List.flatMap_cons, Piece.text, List.cons_append, List.nil_append]
      rw [scanText_plain true hc]
      exact finds_consText ih
  | case3 letter c hc pieces ih =>
      simp only [List.flatMap_cons, Piece.text, List.cons_append, List.nil_append]
      rw [scanText_escape (scanEscape_short true hc _)]
      exact finds_consText ih
  -- A second half in front of a first.
  | case4 digits n hn pieces hlow =>
      have hescape := scanEscape_unit true hn (pieces.flatMap Piece.text ++ '"' :: t)
      rw [hlow, Bool.and_true, if_pos rfl] at hescape
      simp only [List.flatMap_cons, Piece.text, List.cons_append, List.append_assoc]
      exact Finds.none_iff.mpr ⟨_, scanText_escape_error hescape⟩
  -- Both halves.
  | case5 digits n hn hlow hhigh others m hm pieces hlow' ih =>
      have hescape := scanEscape_unit true hn
        ('\\' :: 'u' :: (others ++ (pieces.flatMap Piece.text ++ '"' :: t)))
      rw [Bool.eq_false_iff.mpr hlow, hhigh, scanLowHalf_unit n hm, if_pos hlow'] at hescape
      simp only [List.flatMap_cons, Piece.text, List.cons_append, List.append_assoc]
      rw [scanText_escape hescape]
      exact finds_consText ih
  -- A first half in front of another unit.
  | case6 digits n hn hlow hhigh others m hm pieces hlow' =>
      have hescape := scanEscape_unit true hn
        ('\\' :: 'u' :: (others ++ (pieces.flatMap Piece.text ++ '"' :: t)))
      rw [Bool.eq_false_iff.mpr hlow, hhigh, scanLowHalf_unit n hm, if_neg hlow'] at hescape
      simp only [List.flatMap_cons, Piece.text, List.cons_append, List.append_assoc]
      exact Finds.none_iff.mpr ⟨_, scanText_escape_error hescape⟩
  -- A first half in front of anything else.
  | case7 digits n hn pieces hlow hhigh hother =>
      rcases scanLowHalf_other n (fun others m hm rest heq => hother others m hm rest heq) t with
        ⟨e, he⟩
      have hescape := scanEscape_unit true hn (pieces.flatMap Piece.text ++ '"' :: t)
      rw [Bool.eq_false_iff.mpr hlow, hhigh, he] at hescape
      simp only [List.flatMap_cons, Piece.text, List.cons_append, List.append_assoc]
      exact Finds.none_iff.mpr ⟨e, scanText_escape_error hescape⟩
  | case8 digits n hn pieces hlow hhigh ih =>
      have hescape := scanEscape_unit true hn (pieces.flatMap Piece.text ++ '"' :: t)
      rw [Bool.eq_false_iff.mpr hlow, Bool.eq_false_iff.mpr hhigh] at hescape
      simp only [List.flatMap_cons, Piece.text, List.cons_append, List.append_assoc]
      rw [scanText_escape hescape]
      exact finds_consText ih

/-- A string that is passed over is found whatever it spells. -/
theorem scanText_passed (pieces : List Piece) (t : List Char) :
    ∃ text, scanText false (pieces.flatMap Piece.text ++ '"' :: t) = .ok (text, t) := by
  induction pieces with
  | nil =>
      rw [List.flatMap_nil, List.nil_append, scanText, if_pos rfl]
      exact ⟨[], rfl⟩
  | cons piece pieces ih =>
      rcases ih with ⟨text, ih⟩
      cases piece with
      | plain c hc =>
          simp only [List.flatMap_cons, Piece.text, List.cons_append, List.nil_append]
          rw [scanText_plain false hc]
          exact ⟨c :: text, consText_eq_ok.mpr ⟨text, ih, rfl⟩⟩
      | short letter c hc =>
          simp only [List.flatMap_cons, Piece.text, List.cons_append, List.nil_append]
          rw [scanText_escape (scanEscape_short false hc _)]
          exact ⟨c :: text, consText_eq_ok.mpr ⟨text, ih, rfl⟩⟩
      | unit digits n hn =>
          have hescape := scanEscape_unit false hn (pieces.flatMap Piece.text ++ '"' :: t)
          simp only [List.flatMap_cons, Piece.text, List.cons_append, List.append_assoc]
          rw [scanText_escape hescape]
          exact ⟨Char.ofNat n :: text, consText_eq_ok.mpr ⟨text, ih, rfl⟩⟩

/-! ### Numbers -/

theorem ne_of_startsNumber {c d : Char} (hc : startsNumber c = true)
    (hd : startsNumber d = false) : c ≠ d := by
  rintro rfl
  exact Bool.noConfusion (hc.symm.trans hd)

/-- Digits stop in front of a text. -/
def EndsDigits (t : List Char) : Prop :=
  ∀ c ∈ t.head?, c.isDigit = false

theorem EndsNumber.endsDigits {t : List Char} (h : EndsNumber t) : EndsDigits t :=
  fun c hc => (h c hc).1

theorem EndsDigits.of_head {c : Char} (hc : c.isDigit = false) (r : List Char) :
    EndsDigits (c :: r) := by
  intro d hd
  rw [List.head?_cons, Option.mem_some_iff] at hd
  rw [← hd]
  exact hc

theorem EndsDigits.split {t : List Char} (h : EndsDigits t) :
    t.takeWhile Char.isDigit = [] ∧ t.dropWhile Char.isDigit = t := by
  cases t with
  | nil => exact ⟨rfl, rfl⟩
  | cons c r =>
      have hc : c.isDigit = false := h c rfl
      rw [List.takeWhile_cons, List.dropWhile_cons, hc]
      exact ⟨rfl, rfl⟩

/-- Digits are taken off up to what stops them. -/
theorem Digits.split (digits : Digits) {t : List Char} (ht : EndsDigits t) :
    (digits.chars ++ t).head?.any Char.isDigit = true ∧
      (digits.chars ++ t).takeWhile Char.isDigit = digits.chars ∧
      (digits.chars ++ t).dropWhile Char.isDigit = t := by
  refine ⟨?_, ?_, ?_⟩
  · cases hchars : digits.chars with
    | nil => exact absurd hchars digits.filled
    | cons c r => exact digits.digits c (hchars ▸ List.mem_cons_self)
  · rw [List.takeWhile_append_of_pos digits.digits, ht.split.1, List.append_nil]
  · rw [List.dropWhile_append_of_pos digits.digits, ht.split.2]

namespace NumberForm

variable (number : NumberForm) (atEnd : Cause)

theorem scan_integer {t : List Char} (ht : EndsDigits t) :
    Literal.scanInteger atEnd (number.integer.chars ++ t) = .ok (number.integer.chars, t) := by
  rcases number.integer.split ht with ⟨_, htake, hdrop⟩
  have hproper := number.proper
  have hdigits := number.integer.digits
  cases hchars : number.integer.chars with
  | nil => exact absurd hchars number.integer.filled
  | cons c r =>
      rw [hchars] at htake hdrop hproper hdigits
      have hc : c.isDigit = true := hdigits c List.mem_cons_self
      rw [List.cons_append] at htake hdrop ⊢
      rw [List.takeWhile_cons_of_pos hc, List.cons.injEq] at htake
      rw [List.dropWhile_cons_of_pos hc] at hdrop
      -- A zero in front stands alone, and any other digit begins a row of them.
      by_cases hz : c = '0'
      · subst hz
        have hr : r = [] := (List.cons.inj (hproper rfl)).2
        subst hr
        have hhead : t.head?.any Char.isDigit = false := by
          cases t with
          | nil => rfl
          | cons d t => exact ht d rfl
        rw [List.nil_append, Literal.scanInteger, if_pos rfl, hhead,
          if_neg Bool.false_ne_true]
      · rw [Literal.scanInteger, if_neg hz, if_pos hc, htake.2, hdrop]

theorem scan_fraction (fraction : Option Digits) {t : List Char} (ht : EndsDigits t)
    (hpoint : ∀ c ∈ t.head?, c ≠ '.') :
    Literal.scanFraction atEnd (fractionText fraction ++ t) =
      .ok (fraction.map Digits.chars, t) := by
  cases fraction with
  | none =>
      rw [fractionText, List.nil_append, Literal.scanFraction]
      · rfl
      · rintro r rfl
        exact hpoint '.' rfl rfl
  | some digits =>
      rcases digits.split ht with ⟨hhead, htake, hdrop⟩
      rw [fractionText, List.cons_append, Literal.scanFraction, if_pos hhead, htake, hdrop,
        Option.map_some]

theorem scanSign_text (minus : Option Bool) (digits : Digits) (t : List Char) :
    Literal.scanSign (signText minus ++ (digits.chars ++ t)) =
      (minus == some true, digits.chars ++ t) := by
  cases minus with
  | some minus => cases minus <;> rfl
  | none =>
      -- Digits are not taken for a sign.
      cases hchars : digits.chars with
      | nil => exact absurd hchars digits.filled
      | cons c r =>
          have hc : c.isDigit = true := digits.digits c (hchars ▸ List.mem_cons_self)
          have hplus : c ≠ '+' := by rintro rfl; exact absurd hc (by decide)
          have hminus : c ≠ '-' := by rintro rfl; exact absurd hc (by decide)
          exact Literal.scanSign_cons hplus hminus (r ++ t)

theorem scan_exponent (exponent : Option ExponentForm) {t : List Char} (ht : EndsNumber t) :
    Literal.scanExponent atEnd (exponentText exponent ++ t) =
      .ok (exponent.map fun e => (e.minus == some true, e.digits.chars), t) := by
  cases exponent with
  | none => exact @Literal.scanExponent_local atEnd [] none [] t rfl (Or.inr ht)
  | some e =>
      rcases e.digits.split ht.endsDigits with ⟨hhead, htake, hdrop⟩
      rw [exponentText, List.cons_append, List.append_assoc, Literal.scanExponent,
        if_pos e.isLetter, scanSign_text]
      simp only [hhead, if_true, htake, hdrop, Option.map_some]

theorem endsDigits_exponent (exponent : Option ExponentForm) {t : List Char}
    (ht : EndsNumber t) : EndsDigits (exponentText exponent ++ t) := by
  cases exponent with
  | none => exact ht.endsDigits
  | some e => exact .of_head (by rcases e.isLetter with h | h <;> rw [h] <;> decide) _

theorem endsDigits_fraction (fraction : Option Digits) {t : List Char} (ht : EndsDigits t) :
    EndsDigits (fractionText fraction ++ t) := by
  cases fraction with
  | none => exact ht
  | some digits => exact .of_head (by decide) _

/-- A number is scanned into its parts. -/
theorem scan_number {t : List Char} (ht : EndsNumber t) :
    Literal.scan atEnd number.isNegative (number.unsigned ++ t) = .ok (number.literal, t) := by
  have hexponent := endsDigits_exponent number.exponent ht
  -- Behind the integer comes a point, the letter of an exponent, or what ends the number.
  have hpoint : ∀ c ∈ (exponentText number.exponent ++ t).head?, c ≠ '.' := by
    cases number.exponent with
    | none => exact fun c hc => (ht c hc).2.1
    | some e =>
        rintro c hc rfl
        have hletter : e.letter = '.' := Option.some_inj.mp hc
        rcases e.isLetter with h | h <;> rw [h] at hletter <;> exact absurd hletter (by decide)
  rw [unsigned, List.append_assoc, List.append_assoc, Literal.scan,
    scan_integer number atEnd (endsDigits_fraction number.fraction hexponent)]
  simp only [bind, Except.bind, scan_fraction atEnd number.fraction hexponent hpoint,
    scan_exponent atEnd number.exponent ht, pure, Except.pure, literal]

/-- A number begins with a minus or with a digit. -/
theorem text_starts : ∃ c r, number.text = c :: r ∧ startsNumber c = true ∧
    ((number.isNegative = true ∧ c = '-' ∧ r = number.unsigned) ∨
      (number.isNegative = false ∧ c ≠ '-' ∧ c :: r = number.unsigned)) := by
  cases hsign : number.isNegative with
  | true =>
      refine ⟨'-', number.unsigned, ?_, by decide, .inl ⟨rfl, rfl, rfl⟩⟩
      rw [text, hsign, if_pos rfl]
  | false =>
      cases hchars : number.integer.chars with
      | nil => exact absurd hchars number.integer.filled
      | cons c r =>
          have hc : c.isDigit = true := number.integer.digits c (hchars ▸ List.mem_cons_self)
          have hminus : c ≠ '-' := by rintro rfl; exact absurd hc (by decide)
          have hunsigned : number.unsigned = c :: (r ++ (fractionText number.fraction ++
              exponentText number.exponent)) := by
            rw [unsigned, hchars, List.cons_append]
          refine ⟨c, _, ?_, ?_, .inr ⟨rfl, hminus, hunsigned.symm⟩⟩
          · rw [text, hsign, if_neg Bool.false_ne_true, hunsigned]
          · rw [startsNumber, hc, Bool.or_true]

/-- A number is found if it is not too large. -/
theorem finds_scanNumber {t : List Char} (ht : EndsNumber t) :
    Finds (scanNumber (number.text ++ t)) (number.literal.value []).toOption t := by
  have hscan := scan_number number .valueEnded ht
  have hunsigned : scanNumber (number.text ++ t) =
      scanUnsigned number.isNegative (number.unsigned ++ t) := by
    rcases text_starts number with ⟨c, r, htext, _, ⟨hsign, rfl, rfl⟩ | ⟨hsign, hc, hr⟩⟩
    · rw [htext, hsign]
      rfl
    · rw [htext, hsign, List.cons_append, scanNumber_cons hc, ← List.cons_append, hr]
  rw [hunsigned, scanUnsigned, hscan]
  -- Whether a number is too large is decided by its own digits, whatever follows.
  cases hvalue : number.literal.value [] with
  | ok n =>
      simp only [Literal.value_eq_ok hvalue t]
      exact Finds.some_iff.mpr rfl
  | error e =>
      cases hlater : number.literal.value t with
      | error e =>
          simp only [hlater]
          exact Finds.error e
      | ok n =>
          rw [Literal.value_eq_ok hlater []] at hvalue
          simp only [reduceCtorEq] at hvalue

end NumberForm

/-- The number that digits spell. -/
def Digits.value (digits : Digits) : Nat :=
  digits.chars.foldl (fun n c => n * 10 + Literal.digit c) 0

namespace Literal

theorem le_foldl_digit (n : Nat) (s : List Char) :
    n ≤ s.foldl (fun n c => n * 10 + digit c) n := by
  induction s generalizing n with
  | nil => exact Nat.le_refl n
  | cons c s ih =>
      have hrest := ih (n * 10 + digit c)
      rw [List.foldl_cons]
      omega

/-- Digits are all taken in if the number that they spell stays below the
    limit. No digit makes a number smaller. -/
theorem absorb_eq_nil {limit n m : Nat} (hn : n < limit) {s : List Char} :
    absorb limit n s = (m, []) ↔ s.foldl (fun n c => n * 10 + digit c) n = m ∧ m < limit := by
  induction s generalizing n with
  | nil =>
      simp only [absorb, Prod.mk.injEq, and_true, List.foldl_nil]
      exact ⟨fun h => ⟨h, h ▸ hn⟩, And.left⟩
  | cons c s ih =>
      rw [absorb, List.foldl_cons]
      -- A digit that is taken in leaves a smaller task, and one that is not ends it for good.
      by_cases hc : n * 10 + digit c < limit
      · rw [if_pos hc]
        exact ih hc
      · rw [if_neg hc]
        simp only [Prod.mk.injEq, reduceCtorEq, and_false, false_iff, not_and]
        rintro rfl hlt
        exact hc (Nat.lt_of_le_of_lt (le_foldl_digit _ s) hlt)

/-- What is scaled is a double. -/
theorem real_ne_natural (l : Literal) (n m : Nat) (scale : Int) (rest : List Char) :
    l.real n scale rest ≠ .ok (.natural m) := by
  intro h
  unfold real at h
  -- Every way out is a double or a fault, never a natural number.
  cases hx : l.exponent with
  | none =>
      cases hs : scaled n scale <;>
        simp only [hx, hs, failBefore, reduceCtorEq, signed, Except.ok.injEq] at h
  | some exponent =>
      cases ha : absorb exponentLimit 0 exponent.2 with
      | mk e unread =>
          cases unread with
          | nil =>
              cases hs : scaled n (if exponent.1 then scale - e else scale + e) <;>
                simp only [hx, ha, hs, failBefore, reduceCtorEq, signed, Except.ok.injEq] at h
          | cons c unread =>
              by_cases hn : n ≠ 0 ∧ ¬ exponent.1 = true
              · simp only [hx, ha, if_pos hn, failBefore, reduceCtorEq] at h
              · simp only [hx, ha, if_neg hn, signed, Except.ok.injEq, reduceCtorEq] at h

/-- A number is a natural one if it has no sign, no fraction and no exponent,
    and fits into sixty-four bits. -/
theorem value_eq_natural {l : Literal} {m : Nat} {rest : List Char} :
    l.value rest = .ok (.natural m) ↔ l.isNegative = false ∧ l.fraction = none ∧
      l.exponent = none ∧ absorb UInt64.size 0 l.integer = (m, []) := by
  unfold value
  cases ha : absorb UInt64.size 0 l.integer with
  | mk n excess =>
      dsimp only
      by_cases hwhole : l.fraction.isNone ∧ l.exponent.isNone ∧ excess.isEmpty
      · rcases hwhole with ⟨hf, he, hx⟩
        rw [if_pos ⟨hf, he, hx⟩, Option.isNone_iff_eq_none.mp hf, Option.isNone_iff_eq_none.mp he,
          List.isEmpty_iff.mp hx]
        cases hsign : l.isNegative with
        | false => simp
        | true =>
            simp [signed]
            split <;> simp only [reduceCtorEq, not_false_eq_true]
      · rw [if_neg hwhole]
        refine ⟨fun h => absurd h (real_ne_natural _ _ _ _ _), ?_⟩
        rintro ⟨_, hf, he, hx⟩
        rw [Prod.mk.injEq] at hx
        exact absurd ⟨by rw [hf]; rfl, by rw [he]; rfl, by rw [hx.2]; rfl⟩ hwhole

end Literal

/-- A number is written in digits, without sign, fraction and exponent, and the
    digits spell `n`. -/
structure NumberForm.Spells (number : NumberForm) (n : Nat) : Prop where
  unsigned : number.isNegative = false
  whole : number.fraction = none
  plain : number.exponent = none
  value : number.integer.value = n

/-- A number is a natural one if it is written as one and fits into sixty-four
    bits. -/
theorem NumberForm.value_eq_natural {number : NumberForm} {m : Nat} {rest : List Char} :
    number.literal.value rest = .ok (.natural m) ↔ number.Spells m ∧ m < UInt64.size := by
  rw [Literal.value_eq_natural]
  simp only [literal, Option.map_eq_none_iff,
    Literal.absorb_eq_nil (show 0 < UInt64.size by decide)]
  constructor
  · rintro ⟨hunsigned, hwhole, hplain, hvalue, hlt⟩
    exact ⟨⟨hunsigned, hwhole, hplain, hvalue⟩, hlt⟩
  · rintro ⟨h, hlt⟩
    exact ⟨h.unsigned, h.whole, h.plain, h.value, hlt⟩

/-! ### Forms -/

/-- What the text of a form may begin with. No two kinds of forms share a
    character. -/
def Form.opener : Form → Char → Bool
  | null, c => c == 'n'
  | truth _, c => c == 't' || c == 'f'
  | number _, c => startsNumber c
  | quoted _, c => c == '"'
  | list _ _, c => c == '['
  | record _ _, c => c == '\x7b'

theorem Form.exists_opener (form : Form) :
    ∃ c r, form.text = c :: r ∧ form.opener c = true := by
  cases form with
  | truth value => cases value <;> exact ⟨_, _, rfl, rfl⟩
  | number token =>
      rcases token.text_starts with ⟨c, r, htext, hstart, _⟩
      exact ⟨c, r, htext, hstart⟩
  | _ => exact ⟨_, _, rfl, rfl⟩

/-- A form begins with no blank and with no end of a bracket. -/
theorem Form.starts (form : Form) :
    ∃ c r, form.text = c :: r ∧ isGap c = false ∧ c ≠ listEnd ∧ c ≠ recordEnd := by
  rcases form.exists_opener with ⟨c, r, htext, hopener⟩
  -- A character that no form begins with is not the one that this form begins with.
  have hfacts : ∀ d, (∀ other : Form, other.opener d = false) → c ≠ d := by
    rintro d hd rfl
    exact Bool.noConfusion (hopener.symm.trans (hd form))
  refine ⟨c, r, htext, ?_, hfacts _ fun other => by cases other <;> rfl,
    hfacts _ fun other => by cases other <;> rfl⟩
  rw [Bool.eq_false_iff]
  intro hgap
  simp only [isGap, Bool.or_eq_true, beq_iff_eq] at hgap
  rcases hgap with ((h | h) | h) | h <;>
    exact hfacts _ (fun other => by cases other <;> rfl) h

section Kinds

variable {form : Form}

theorem Form.eq_null (h : form.opener 'n' = true) : form = .null := by
  cases form with
  | null => rfl
  | _ => exact absurd h Bool.false_ne_true

theorem Form.eq_truth {c : Char} (h : form.opener c = true) (hc : c = 't' ∨ c = 'f') :
    ∃ value, form = .truth value := by
  cases form with
  | truth value => exact ⟨value, rfl⟩
  | _ => rcases hc with rfl | rfl <;> exact absurd h Bool.false_ne_true

theorem Form.eq_number {c : Char} (h : form.opener c = true) (hc : startsNumber c = true) :
    ∃ token, form = .number token := by
  have hne : ∀ d, startsNumber d = false → c ≠ d := fun d hd => ne_of_startsNumber hc hd
  cases form with
  | number token => exact ⟨token, rfl⟩
  | truth value =>
      rw [opener, Bool.or_eq_true, beq_iff_eq, beq_iff_eq] at h
      rcases h with h | h <;> exact absurd h (hne _ (by decide))
  | _ => exact absurd (beq_iff_eq.mp h) (hne _ (by decide))

theorem Form.eq_quoted (h : form.opener '"' = true) : ∃ pieces, form = .quoted pieces := by
  cases form with
  | quoted pieces => exact ⟨pieces, rfl⟩
  | _ => exact absurd h Bool.false_ne_true

theorem Form.eq_list (h : form.opener '[' = true) :
    ∃ opening items, form = .list opening items := by
  cases form with
  | list opening items => exact ⟨opening, items, rfl⟩
  | _ => exact absurd h Bool.false_ne_true

theorem Form.eq_record (h : form.opener '\x7b' = true) :
    ∃ opening entries, form = .record opening entries := by
  cases form with
  | record opening entries => exact ⟨opening, entries, rfl⟩
  | _ => exact absurd h Bool.false_ne_true

end Kinds

end Json

end DashKit
