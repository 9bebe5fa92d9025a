import DashKit.Dashboard.Money
import DashKit.Text.Digits

/-!
# Amounts as They Are Written

Every amount of cents has a text of its own, grouped by thousands.

The commas are set on the way from the first digit to the last, by counting
the digits that are still to come, while the groups are counted from the
other end. `exists_groups` is where the two meet. It is an induction on the
digits in which the groups of the rest either get the new digit into their
first group or stand behind it. The first group of the rest is full in just
the case in which a comma is set, since all the others are full and a full
group has three digits.

The marks of a text are not digits. What is left without them are the digits of
the dollars and the two of the cents, which spell the amount, so no two
amounts share a text.

## Main definitions

* `Groups`: Digits in groups, of which only the first may be short.
* `isMoneyMark`: The characters of an amount that are no digits.

## Theorems

* `exists_groups`: Digits are written in groups.
* `number?_unmarked`: A text without its marks spells the amount.
* `moneyText_grouped`: How amounts are written.
-/

namespace DashKit

/-- Digits in groups of three. The first group may be shorter, but it is not
    empty. -/
structure Groups where
  first : List Char
  later : List (List Char)
  begun : 1 ≤ first.length
  short : first.length ≤ 3
  full : ∀ group ∈ later, group.length = 3

namespace Groups

/-- The digits of all groups. -/
def digits (groups : Groups) : List Char :=
  groups.first ++ groups.later.flatten

/-- The groups with a comma between each two. -/
def text (groups : Groups) : List Char :=
  groups.first ++ groups.later.flatMap fun group => ',' :: group

/-- How many digits there are is up to the first group, save for threes. -/
theorem length_digits_mod (groups : Groups) :
    groups.digits.length % 3 = groups.first.length % 3 := by
  have hlengths : groups.later.map List.length = List.replicate groups.later.length 3 :=
    List.map_eq_replicate_iff.mpr groups.full
  have hlater : groups.later.flatten.length = groups.later.length * 3 := by
    rw [List.length_flatten, hlengths, List.sum_replicate_nat]
  have hdigits : groups.digits.length = groups.first.length + groups.later.flatten.length :=
    List.length_append
  omega

end Groups

/-- Digits are written in groups. -/
theorem exists_groups {s : List Char} (h : s ≠ []) :
    ∃ groups : Groups, groups.digits = s ∧ groupThousands s = groups.text := by
  induction s with
  | nil => exact absurd rfl h
  | cons digit s ih =>
      by_cases hs : s = []
      -- A digit by itself is the only group.
      · subst hs
        exact ⟨⟨[digit], [], Nat.le_refl 1, Nat.le_add_left 1 2, List.forall_mem_nil _⟩, rfl, rfl⟩
      · rcases ih hs with ⟨groups, hdigits, htext⟩
        have hmod := groups.length_digits_mod
        have hbegun := groups.begun
        have hshort := groups.short
        rw [hdigits] at hmod
        unfold groupThousands
        by_cases hcomma : s.length % 3 = 0
        -- The rest begins with a full group, so the digit begins one of its own.
        · have hfull : groups.first.length = 3 := by omega
          refine ⟨⟨[digit], groups.first :: groups.later, Nat.le_refl 1, Nat.le_add_left 1 2,
            List.forall_mem_cons.mpr ⟨hfull, groups.full⟩⟩, ?_, ?_⟩
          · rw [← hdigits]
            rfl
          · rw [if_pos ⟨hcomma, hs⟩, htext]
            rfl
        -- The first group of the rest has room for one more.
        · have hroom : groups.first.length + 1 ≤ 3 := by omega
          refine ⟨⟨digit :: groups.first, groups.later, Nat.le_add_left 1 _, hroom,
            groups.full⟩, ?_, ?_⟩
          · rw [← hdigits]
            rfl
          · rw [if_neg fun hboth => hcomma hboth.1, htext]
            rfl

/-- The characters of an amount that are no digits. -/
def isMoneyMark (c : Char) : Bool :=
  c == '$' || c == ',' || c == '.'

/-- A text without the marks of an amount. -/
def unmarked (s : List Char) : List Char :=
  s.filter fun c => !isMoneyMark c

theorem isMoneyMark_of_isDigit {c : Char} (h : c.isDigit = true) : isMoneyMark c = false := by
  rw [Bool.eq_false_iff]
  intro hmark
  simp only [isMoneyMark, Bool.or_eq_true, beq_iff_eq] at hmark
  rcases hmark with (rfl | rfl) | rfl <;> exact absurd h (by decide)

theorem unmarked_digits {s : List Char} (h : ∀ c ∈ s, c.isDigit = true) : unmarked s = s := by
  unfold unmarked
  rw [List.filter_eq_self]
  intro c hc
  rw [isMoneyMark_of_isDigit (h c hc)]
  rfl

/-- Grouping adds nothing but marks. -/
theorem unmarked_groupThousands (s : List Char) : unmarked (groupThousands s) = unmarked s := by
  unfold unmarked
  induction s with
  | nil => rfl
  | cons digit s ih =>
      unfold groupThousands
      -- A comma is put in before a rest of full groups, unless that is empty.
      by_cases hcomma : s.length % 3 = 0 ∧ s ≠ []
      · have hmark : (!isMoneyMark ',') = false := rfl
        rw [if_pos hcomma, List.filter_cons, List.filter_cons, List.filter_cons, ih, hmark]
        rfl
      · rw [if_neg hcomma, List.filter_cons, List.filter_cons, ih]

theorem isDigit_of_mem_twoDigits {n : Nat} (hn : n < 100) {c : Char} (hc : c ∈ twoDigits n) :
    c.isDigit = true := by
  simp only [twoDigits, List.mem_cons, List.not_mem_nil, or_false] at hc
  rcases hc with rfl | rfl
  · rw [Nat.isDigit_digitChar, decide_eq_true_eq]
    omega
  · rw [Nat.isDigit_digitChar, decide_eq_true_eq]
    omega

theorem isDigit_of_mem_toDigits {n : Nat} {c : Char} (hc : c ∈ Nat.toDigits 10 n) :
    c.isDigit = true :=
  Nat.isDigit_of_mem_toDigits (by decide) (by decide) hc

/-- Two digits behind a number count its hundreds. -/
theorem numberFrom?_twoDigits (n : Nat) {m : Nat} (hm : m < 100) :
    Text.numberFrom? 10 n (twoDigits m) = some (n * 100 + m) := by
  -- The tens and the ones are taken in one after the other.
  have hten := Text.numberFrom?_digitChar n (show m / 10 < 10 by omega) (by decide)
  have hone := Text.numberFrom?_digitChar (n * 10 + m / 10) (show m % 10 < 10 by omega) (by decide)
  have hsum : (n * 10 + m / 10) * 10 + m % 10 = n * 100 + m := by omega
  rw [twoDigits, ← List.singleton_append, Text.numberFrom?_append, hten, Option.bind_some, hone,
    hsum]

/-- An amount without its marks spells the number of its cents. -/
theorem number?_unmarked (cents : UInt64) :
    Text.number? 10 (unmarked (moneyText cents).toList) = some cents.toNat := by
  have hcents : cents.toNat % 100 < 100 := Nat.mod_lt _ (by decide)
  have hsum : cents.toNat / 100 * 100 + cents.toNat % 100 = cents.toNat :=
    Nat.div_add_mod' cents.toNat 100
  -- Without the marks there are the digits of the dollars and two more.
  have hdollars := unmarked_groupThousands (Nat.toDigits 10 (cents.toNat / 100))
  rw [unmarked_digits fun c => isDigit_of_mem_toDigits] at hdollars
  have hdecimals : unmarked (twoDigits (cents.toNat % 100)) = twoDigits (cents.toNat % 100) :=
    unmarked_digits fun c => isDigit_of_mem_twoDigits hcents
  have htext : unmarked (moneyText cents).toList =
      Nat.toDigits 10 (cents.toNat / 100) ++ twoDigits (cents.toNat % 100) := by
    conv => rhs; rw [← hdollars, ← hdecimals]
    rw [moneyText, String.toList_ofList, unmarked, List.filter_append]
    rfl
  rw [htext, Text.number?_append, Text.number?_toDigits (by decide) (by decide), Option.bind_some,
    numberFrom?_twoDigits _ hcents, hsum]

/-- An amount is written with a dollar sign, then the digits of its dollars in
    groups, then a point and two digits. There is no zero in front of other
    dollars. Without the marks it spells the number of cents, so different
    amounts are written differently. -/
theorem moneyText_grouped :
    (∀ cents : UInt64, ∃ (groups : Groups) (decimals : List Char),
      moneyText cents = String.ofList ('$' :: (groups.text ++ '.' :: decimals)) ∧
        decimals.length = 2 ∧
        (∀ c ∈ groups.digits ++ decimals, c.isDigit = true) ∧
        (groups.digits.head? = some '0' → groups.digits = ['0'])) ∧
      (∀ cents : UInt64,
        Text.number? 10 (unmarked (moneyText cents).toList) = some cents.toNat) ∧
      Function.Injective moneyText := by
  refine ⟨fun cents => ?_, number?_unmarked, fun cents other heq => ?_⟩
  · have hcents : cents.toNat % 100 < 100 := Nat.mod_lt _ (by decide)
    rcases exists_groups (@Nat.toDigits_ne_nil (cents.toNat / 100) 10) with
      ⟨groups, hdigits, htext⟩
    refine ⟨groups, twoDigits (cents.toNat % 100), ?_, rfl, ?_, ?_⟩
    · rw [moneyText, htext, List.cons_append]
    · intro c hc
      rcases List.mem_append.mp hc with hc | hc
      · rw [hdigits] at hc
        exact isDigit_of_mem_toDigits hc
      · exact isDigit_of_mem_twoDigits hcents hc
    -- Of all numbers only zero begins with a zero.
    · intro hhead
      rw [hdigits] at hhead ⊢
      by_cases hzero : cents.toNat / 100 = 0
      · rw [hzero, Nat.toDigits_zero]
      · exact absurd hhead (Text.head?_toDigits (Nat.pos_of_ne_zero hzero))
  -- Equal texts spell equal numbers.
  · have hcents := number?_unmarked cents
    rw [heq, number?_unmarked other] at hcents
    exact UInt64.toNat_inj.mp (Option.some.inj hcents).symm

end DashKit
