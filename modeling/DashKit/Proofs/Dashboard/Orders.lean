import Mathlib.Algebra.Order.BigOperators.Group.List
import Mathlib.Algebra.Order.Ring.Nat
import Mathlib.Data.Finset.Max
import Mathlib.Data.List.Forall2
import DashKit.Dashboard.Orders

/-!
# What a Summary Says of Its Orders

The figures on the dashboard follow from the orders alone, and only as far as
the orders are paid for.

The three counts part the orders, since an order stands one way and no other.
Revenue is a sum in sixty-four bits. It is followed as a sum of natural
numbers that is cut to size at every order and so, in the end, just once; a
sum that fits is not cut at all. All else about revenue is then about natural
numbers. The average lies between the smallest and the largest amount because
their multiples lie around the sum.

A summary is made of counts and of a sum, and neither depends on the order in
which things are counted or on things that are left out. That is why orders
may be exchanged, and changed where nothing was paid, and why summaries of two
lists can be added.

## Main definitions

* `Summary.paidTotal`: What the paid orders add up to.
* `Summary.Tallies`: The figures of a summary are those of the orders.
* `Summary.Joins`: The figures of two summaries, added up.
* `Order.PaysLike`: Orders that count for the same.

## Theorems

* `countOf_add`: The statuses part the orders.
* `toNat_revenue`: Revenue is what the paid orders add up to.
* `between_of_average`: The average lies between the amounts.
* `ofOrders_tallies`: What a summary says of its orders.
-/

namespace DashKit

/-- Two orders count for the same: they stand alike, and if they are paid it is
    for the same amount. -/
def Order.PaysLike (order other : Order) : Prop :=
  order.status = other.status ∧ (order.status = .paid → order.cents = other.cents)

namespace Summary

/-- What the paid orders add up to, however much it is. -/
def paidTotal (orders : List Order) : Nat :=
  ((paidAmounts orders).map UInt64.toNat).sum

/-- The figures of a summary are those of a list of orders. -/
structure Tallies (summary : Summary) (orders : List Order) : Prop where
  counted : summary.orders = orders.length
  parts : summary.paid + summary.pending + summary.refunded = summary.orders
  paid : summary.paid = (paidAmounts orders).length
  revenue : summary.revenue.toNat = paidTotal orders
  /-- Without paid orders there is nothing to divide. -/
  unpaid : summary.paid = 0 → summary.average = 0
  /-- The average is the quotient, rounded down. -/
  rounded : 0 < summary.paid →
    summary.average.toNat * summary.paid ≤ summary.revenue.toNat ∧
      summary.revenue.toNat < (summary.average.toNat + 1) * summary.paid
  between : 0 < summary.paid →
    ∃ least ∈ paidAmounts orders, ∃ greatest ∈ paidAmounts orders,
      (∀ amount ∈ paidAmounts orders, least ≤ amount ∧ amount ≤ greatest) ∧
        least ≤ summary.average ∧ summary.average ≤ greatest

/-- The counts and the revenue of a summary are those of two others, added
    up. -/
structure Joins (front back whole : Summary) : Prop where
  counted : whole.orders = front.orders + back.orders
  paid : whole.paid = front.paid + back.paid
  pending : whole.pending = front.pending + back.pending
  refunded : whole.refunded = front.refunded + back.refunded
  revenue : whole.revenue.toNat = front.revenue.toNat + back.revenue.toNat

/-! ### Counts -/

theorem countOf_cons (status : OrderStatus) (order : Order) (orders : List Order) :
    countOf status (order :: orders) =
      countOf status orders + if order.status = status then 1 else 0 := by
  simp only [countOf, List.countP_cons, decide_eq_true_eq]

theorem countOf_append (status : OrderStatus) (front back : List Order) :
    countOf status (front ++ back) = countOf status front + countOf status back :=
  List.countP_append

/-- An order stands one way and no other. -/
theorem countOf_add (orders : List Order) :
    countOf .paid orders + countOf .pending orders + countOf .refunded orders =
      orders.length := by
  induction orders with
  | nil => rfl
  | cons order orders ih =>
      simp only [countOf_cons, List.length_cons]
      -- One of the three counts goes up by one, and so does the length.
      cases order.status with
      | paid =>
          simp only [if_true, reduceCtorEq, if_false]
          omega
      | pending =>
          simp only [if_true, reduceCtorEq, if_false]
          omega
      | refunded =>
          simp only [if_true, reduceCtorEq, if_false]
          omega

theorem paidAmounts_cons (order : Order) (orders : List Order) :
    paidAmounts (order :: orders) =
      if order.status = .paid then order.cents :: paidAmounts orders else paidAmounts orders := by
  unfold paidAmounts
  rw [List.filter_cons]
  by_cases hpaid : order.status = .paid
  · rw [if_pos (decide_eq_true hpaid), if_pos hpaid, List.map_cons]
  · rw [decide_eq_false hpaid, if_neg Bool.false_ne_true, if_neg hpaid]

theorem paidAmounts_append (front back : List Order) :
    paidAmounts (front ++ back) = paidAmounts front ++ paidAmounts back := by
  unfold paidAmounts
  rw [List.filter_append, List.map_append]

/-- There is an amount for every order that is counted as paid. -/
theorem countOf_paid (orders : List Order) :
    countOf .paid orders = (paidAmounts orders).length := by
  unfold countOf paidAmounts
  rw [List.length_map, List.countP_eq_length_filter]

/-! ### Revenue -/

/-- A sum of sixty-four bits is the sum, cut to size. It does not matter that it
    was cut on the way. -/
theorem toNat_foldl_add (amounts : List UInt64) (start : UInt64) :
    (amounts.foldl (· + ·) start).toNat =
      (start.toNat + (amounts.map UInt64.toNat).sum) % 2 ^ 64 := by
  induction amounts generalizing start with
  | nil =>
      have hfits : start.toNat < 2 ^ 64 := start.toNat_lt
      rw [List.foldl_nil, List.map_nil, List.sum_nil, Nat.add_zero, Nat.mod_eq_of_lt hfits]
  | cons amount amounts ih =>
      -- The start of the rest is a sum that is cut already. Cutting it again later is enough.
      rw [List.foldl_cons, ih, List.map_cons, List.sum_cons, UInt64.toNat_add, Nat.mod_add_mod,
        Nat.add_assoc]

theorem toNat_revenue {orders : List Order} (h : paidTotal orders < 2 ^ 64) :
    (ofOrders orders).revenue.toNat = paidTotal orders := by
  have hsum := toNat_foldl_add (paidAmounts orders) 0
  rw [UInt64.toNat_zero, Nat.zero_add] at hsum
  exact hsum.trans (Nat.mod_eq_of_lt h)

theorem paidTotal_append (front back : List Order) :
    paidTotal (front ++ back) = paidTotal front + paidTotal back := by
  unfold paidTotal
  rw [paidAmounts_append, List.map_append, List.sum_append]

/-! ### The average -/

theorem toNat_average {orders : List Order} (hpaid : 0 < (ofOrders orders).paid) :
    (ofOrders orders).average.toNat =
      (ofOrders orders).revenue.toNat / (ofOrders orders).paid := by
  have hne : countOf .paid orders ≠ 0 := Nat.pos_iff_ne_zero.mp hpaid
  -- A quotient of a number of sixty-four bits has no more bits than that.
  have hfits : (ofOrders orders).revenue.toNat / (ofOrders orders).paid < UInt64.size :=
    Nat.lt_of_le_of_lt (Nat.div_le_self _ _) (ofOrders orders).revenue.toNat_lt
  rw [← UInt64.toNat_ofNat_of_lt' hfits]
  conv => lhs; unfold ofOrders
  simp only [if_neg hne]
  rfl

/-- A sum lies between the multiples of bounds on its parts, so the quotient
    lies between the bounds. -/
theorem between_of_average {amounts : List UInt64} {average : UInt64}
    (hne : amounts ≠ [])
    (haverage : average.toNat = (amounts.map UInt64.toNat).sum / amounts.length) :
    ∃ least ∈ amounts, ∃ greatest ∈ amounts,
      (∀ amount ∈ amounts, least ≤ amount ∧ amount ≤ greatest) ∧
        least ≤ average ∧ average ≤ greatest := by
  -- The least and the greatest amount are found among the amounts.
  have hset : amounts.toFinset.Nonempty := List.toFinset_nonempty_iff amounts |>.mpr hne
  rcases Finset.exists_min_image amounts.toFinset UInt64.toNat hset with ⟨least, hleast, hmin⟩
  rcases Finset.exists_max_image amounts.toFinset UInt64.toNat hset with
    ⟨greatest, hgreatest, hmax⟩
  simp only [List.mem_toFinset] at hleast hmin hgreatest hmax
  have hlength : 0 < amounts.length := List.length_pos_iff.mpr hne
  -- The sum has as many parts as there are amounts, and each lies between the two.
  have hlow : amounts.length * least.toNat ≤ (amounts.map UInt64.toNat).sum := by
    have hsum := List.card_nsmul_le_sum (amounts.map UInt64.toNat) least.toNat
      (List.forall_mem_map.mpr hmin)
    rwa [List.length_map, Nat.nsmul_eq_mul] at hsum
  have hhigh : (amounts.map UInt64.toNat).sum ≤ amounts.length * greatest.toNat := by
    have hsum := List.sum_le_card_nsmul (amounts.map UInt64.toNat) greatest.toNat
      (List.forall_mem_map.mpr hmax)
    rwa [List.length_map, Nat.nsmul_eq_mul] at hsum
  refine ⟨least, hleast, greatest, hgreatest, ?_, ?_, ?_⟩
  · intro amount hamount
    exact ⟨UInt64.le_iff_toNat_le.mpr (hmin amount hamount),
      UInt64.le_iff_toNat_le.mpr (hmax amount hamount)⟩
  · rw [UInt64.le_iff_toNat_le, haverage, Nat.le_div_iff_mul_le hlength, Nat.mul_comm]
    exact hlow
  · rw [UInt64.le_iff_toNat_le, haverage]
    exact Nat.div_le_of_le_mul hhigh

/-! ### Orders that are exchanged or changed -/

/-- A summary is made of the number of orders, the counts and the amounts. -/
theorem ofOrders_congr {orders others : List Order} (hlength : orders.length = others.length)
    (hcount : ∀ status, countOf status orders = countOf status others)
    (hrevenue : (ofOrders orders).revenue = (ofOrders others).revenue) :
    ofOrders orders = ofOrders others := by
  unfold ofOrders at hrevenue ⊢
  simp only at hrevenue
  simp only [hlength, hcount, hrevenue]

theorem ofOrders_perm {orders others : List Order} (h : orders.Perm others) :
    ofOrders orders = ofOrders others := by
  have hamounts : (paidAmounts orders).Perm (paidAmounts others) := (h.filter _).map _
  have hrevenue : (ofOrders orders).revenue = (ofOrders others).revenue := by
    -- A sum of sixty-four bits does not depend on the order, cut or not.
    refine hamounts.foldl_eq' ?_ 0
    intro one _ other _ sum
    rw [UInt64.add_assoc, UInt64.add_comm one other, ← UInt64.add_assoc]
  exact ofOrders_congr h.length_eq (fun status => h.countP_eq _) hrevenue

theorem countOf_paysLike {orders others : List Order}
    (h : List.Forall₂ Order.PaysLike orders others) (status : OrderStatus) :
    countOf status orders = countOf status others := by
  induction h with
  | nil => rfl
  | cons hlike _ ih => rw [countOf_cons, countOf_cons, ih, hlike.1]

theorem paidAmounts_paysLike {orders others : List Order}
    (h : List.Forall₂ Order.PaysLike orders others) : paidAmounts orders = paidAmounts others := by
  induction h with
  | nil => rfl
  | @cons order other orders others hlike _ ih =>
      rw [paidAmounts_cons, paidAmounts_cons, ih, ← hlike.1]
      by_cases hpaid : order.status = .paid
      · rw [if_pos hpaid, if_pos hpaid, hlike.2 hpaid]
      -- The amount of an order that is not paid is left out.
      · rw [if_neg hpaid, if_neg hpaid]

theorem ofOrders_paysLike {orders others : List Order}
    (h : List.Forall₂ Order.PaysLike orders others) : ofOrders orders = ofOrders others := by
  have hrevenue : (ofOrders orders).revenue = (ofOrders others).revenue :=
    congrArg (List.foldl (· + ·) 0) (paidAmounts_paysLike h)
  exact ofOrders_congr h.length_eq (countOf_paysLike h) hrevenue

/-! ### Summaries -/

theorem tallies_ofOrders {orders : List Order} (h : paidTotal orders < 2 ^ 64) :
    (ofOrders orders).Tallies orders where
  counted := rfl
  parts := countOf_add orders
  paid := countOf_paid orders
  revenue := toNat_revenue h
  unpaid hpaid := if_pos hpaid
  rounded hpaid := by
    rw [toNat_average hpaid]
    refine ⟨Nat.div_mul_le_self _ _, ?_⟩
    rw [Nat.mul_comm]
    exact Nat.lt_mul_div_succ _ hpaid
  between hpaid := by
    have hlength : (ofOrders orders).paid = (paidAmounts orders).length := countOf_paid orders
    have haverage := toNat_average hpaid
    rw [toNat_revenue h, hlength] at haverage
    rw [hlength] at hpaid
    exact between_of_average (List.length_pos_iff.mp hpaid) haverage

theorem joins_ofOrders {front back : List Order} (h : paidTotal (front ++ back) < 2 ^ 64) :
    Joins (ofOrders front) (ofOrders back) (ofOrders (front ++ back)) where
  counted := List.length_append
  paid := countOf_append .paid front back
  pending := countOf_append .pending front back
  refunded := countOf_append .refunded front back
  revenue := by
    -- Both parts fit because the whole does.
    have htotal := paidTotal_append front back
    rw [toNat_revenue h, toNat_revenue (show paidTotal front < 2 ^ 64 by omega),
      toNat_revenue (show paidTotal back < 2 ^ 64 by omega), htotal]

/-- If the paid orders add up to a number of sixty-four bits, the summary has
    their figures. It depends neither on the order of the list nor on the
    amounts that were not paid, and summaries of parts add up. -/
theorem ofOrders_tallies (orders : List Order) (h : paidTotal orders < 2 ^ 64) :
    (ofOrders orders).Tallies orders ∧
      (∀ others, orders.Perm others → ofOrders others = ofOrders orders) ∧
      (∀ others, List.Forall₂ Order.PaysLike orders others →
        ofOrders others = ofOrders orders) ∧
      ∀ front back, orders = front ++ back →
        Joins (ofOrders front) (ofOrders back) (ofOrders orders) := by
  refine ⟨tallies_ofOrders h, ?_, ?_, ?_⟩
  · intro others hperm
    exact (ofOrders_perm hperm).symm
  · intro others hlike
    exact (ofOrders_paysLike hlike).symm
  · intro front back hsplit
    subst hsplit
    exact joins_ofOrders h

/-- Orders that are paid with as much as fits, and one that is not paid. -/
def largestOrders : List Order :=
  [⟨"ORD-3", "Jackson Lee", "jackson@example.com", .paid, 18446744073709551614⟩,
   ⟨"ORD-2", "William Kim", "will@example.com", .pending, 1⟩,
   ⟨"ORD-1", "Sofia Davis", "sofia@example.com", .paid, 1⟩]

theorem ofOrders_tallies_largest :
    paidTotal largestOrders < 2 ^ 64 ∧ (ofOrders largestOrders).Tallies largestOrders ∧
      ofOrders largestOrders.reverse = ofOrders largestOrders ∧
      ofOrders largestOrders = ⟨18446744073709551615, 3, 2, 1, 0, 9223372036854775807⟩ := by
  have hfits : paidTotal largestOrders < 2 ^ 64 := by decide
  have htallies := ofOrders_tallies largestOrders hfits
  exact ⟨hfits, htallies.1, htallies.2.1 _ largestOrders.reverse_perm.symm, by decide⟩

end Summary

end DashKit
