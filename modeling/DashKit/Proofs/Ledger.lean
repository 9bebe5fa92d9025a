import DashKit.Ledger
import Mathlib.Data.List.Dedup
import Mathlib.Data.List.Induction
import Mathlib.Data.List.Perm.Basic

/-!
# Ledgers After Many Writes

What a ledger holds once it was written to a number of times.

One write keeps a known key in its place and puts a new one at the end. Over a
run of writes that makes two orders which have nothing to do with each other:
the keys stand in the order in which they first came, and each has the value
that came last. A key that is written to again therefore says nothing about
where it stands, and two neighbouring writes may trade places as long as they do
not bring in two new keys.

The order of the keys is shown by adding the last write to the others, since that
is the write that decides whether there is a new key at the end. What a key has
is shown from the first write on, as any later one under the key replaces it.

## Main definitions

* `Ledger.putAll`, `Ledger.last?`: Some writes, and what was written under a key
  last.

## Theorems

* `Ledger.get?_putAll`, `Ledger.length_putAll`: A ledger after some writes.
* `Ledger.keys_putAll`: Its keys stand in the order in which they first came.
* `Ledger.putAll_eq`: Its pairs are these keys with what was written last.
* `Ledger.put_put`, `Ledger.put_comm`: When a write replaces another one, and when
  two may trade places.
-/

namespace DashKit

namespace Ledger

variable {κ α : Type} [DecidableEq κ]

/-- What was written under a key last. -/
def last? (key : κ) (written : List (κ × α)) : Option α :=
  ((written.filter fun entry => entry.1 = key).map Prod.snd).getLast?

/-- Some writes, one after the other. -/
def putAll (written : List (κ × α)) (ledger : Ledger κ α) : Ledger κ α :=
  written.foldl (fun ledger entry => put entry.1 entry.2 ledger) ledger

theorem putAll_cons (entry : κ × α) (written : List (κ × α)) (ledger : Ledger κ α) :
    putAll (entry :: written) ledger = putAll written (put entry.1 entry.2 ledger) :=
  rfl

theorem last?_cons (key : κ) (entry : κ × α) (written : List (κ × α)) :
    last? key (entry :: written) =
      (last? key written).or (if entry.1 = key then some entry.2 else none) := by
  rw [last?, last?, List.filter_cons]
  by_cases h : entry.1 = key
  · rw [if_pos (decide_eq_true h), if_pos h, List.map_cons, List.getLast?_cons, Option.or_some]
  · rw [if_neg (by rwa [decide_eq_true_eq]), if_neg h, Option.or_none]

/-- After some writes a key has what was written under it last, or what it had. -/
theorem get?_putAll (key : κ) (written : List (κ × α)) (ledger : Ledger κ α) :
    (putAll written ledger).get? key =
      (last? key written).or (ledger.get? key) := by
  induction written generalizing ledger with
  | nil => rfl
  | cons entry written ih =>
      -- What the later writes leave open is what the first one wrote, or what was there.
      rw [putAll_cons, ih, get?_put, last?_cons, Option.or_assoc]
      split <;> rfl

theorem mem_keys_putAll (key : κ) (written : List (κ × α)) (ledger : Ledger κ α) :
    key ∈ keys (putAll written ledger) ↔
      key ∈ keys ledger ∨ key ∈ written.map Prod.fst := by
  induction written generalizing ledger with
  | nil => exact (or_iff_left List.not_mem_nil).symm
  | cons entry written ih =>
      rw [putAll_cons, ih, keys_put, List.map_cons, List.mem_cons, ← or_assoc]
      refine or_congr_left ?_
      split
      · next h => exact (or_iff_left_of_imp fun he => he ▸ h).symm
      · rw [List.mem_append, List.mem_singleton]

theorem nodup_keys_putAll (written : List (κ × α)) {ledger : Ledger κ α}
    (h : (keys ledger).Nodup) :
    (keys (putAll written ledger)).Nodup := by
  induction written generalizing ledger with
  | nil => exact h
  | cons entry written ih => exact ih (nodup_keys_put entry.1 entry.2 h)

/-- What is in a ledger after some writes was written or was there before. -/
theorem mem_of_mem_putAll {written : List (κ × α)} {ledger : Ledger κ α} {entry : κ × α}
    (h : entry ∈ putAll written ledger) : entry ∈ written ∨ entry ∈ ledger := by
  induction written generalizing ledger with
  | nil => exact .inr h
  | cons first written ih =>
      rcases ih h with h | h
      · exact .inl (List.mem_cons_of_mem first h)
      · rcases mem_of_mem_put h with rfl | h
        · exact .inl List.mem_cons_self
        · exact .inr h

/-- Some writes leave as many entries as there are keys among them. -/
theorem length_putAll (written : List (κ × α)) :
    (putAll written []).length = (written.map Prod.fst).dedup.length := by
  -- Both lists have every key once, so they are the same but for the order.
  have hkeys : (keys (putAll written [])).Perm (written.map Prod.fst).dedup := by
    refine (List.perm_ext_iff_of_nodup ?_ (List.nodup_dedup _)).mpr ?_
    · exact nodup_keys_putAll written List.nodup_nil
    · intro key
      rw [mem_keys_putAll, List.mem_dedup]
      exact or_iff_right List.not_mem_nil
  rw [← hkeys.length_eq, keys, List.length_map]

theorem putAll_append (written later : List (κ × α)) (ledger : Ledger κ α) :
    putAll (written ++ later) ledger = putAll later (putAll written ledger) :=
  List.foldl_append

/-- After some writes the keys stand in the order in which they first came. -/
theorem keys_putAll (written : List (κ × α)) :
    keys (putAll written []) = (written.map Prod.fst).eraseDups := by
  -- The order is decided at the end of the list, so the last write is looked at.
  induction written using List.reverseRecOn with
  | nil => rfl
  | append_singleton written entry ih =>
      have hlast : keys (putAll (written ++ [entry]) []) =
          keys (put entry.1 entry.2 (putAll written [])) := by
        rw [putAll_append]
        rfl
      have hmem : entry.1 ∈ (written.map Prod.fst).eraseDups ↔ entry.1 ∈ written.map Prod.fst :=
        List.mem_eraseDups
      rw [hlast, keys_put, ih, List.map_append, List.eraseDups_append]
      -- The last write leaves the keys alone, or its key goes to the end.
      by_cases h : entry.1 ∈ written.map Prod.fst
      · rw [if_pos (hmem.mpr h)]
        simp [List.removeAll, h]
      · rw [if_neg (mt hmem.mp h)]
        simp [List.removeAll, h, List.eraseDups_cons]

/-- Among distinct keys every pair is what its key finds. -/
theorem get?_of_mem {ledger : Ledger κ α} (h : (keys ledger).Nodup) {entry : κ × α}
    (hmem : entry ∈ ledger) : ledger.get? entry.1 = some entry.2 := by
  induction ledger with
  | nil => exact absurd hmem List.not_mem_nil
  | cons first entries ih =>
      rw [keys, List.map_cons, List.nodup_cons] at h
      rcases List.mem_cons.mp hmem with rfl | hmem
      · rw [get?, if_pos rfl]
      -- The key of a pair further back is not the first one again.
      · have hne : first.1 ≠ entry.1 := by
          intro heq
          exact h.1 (heq ▸ List.mem_map_of_mem hmem)
        rw [get?, if_neg hne]
        exact ih h.2 hmem

/-- After some writes the pairs are the keys in the order in which they first
    came, each with what was written under it last. -/
theorem putAll_eq (written : List (κ × α)) :
    (putAll written []).map (fun entry => (entry.1, some entry.2)) =
      (written.map Prod.fst).eraseDups.map fun key => (key, last? key written) := by
  have hnodup : (keys (putAll written [])).Nodup := nodup_keys_putAll written List.nodup_nil
  rw [← keys_putAll, keys, List.map_map]
  refine List.map_congr_left ?_
  intro entry hmem
  -- A pair is what its key finds, and that is what was written last.
  have hfound := get?_of_mem hnodup hmem
  rw [get?_putAll, get?, Option.or_none] at hfound
  rw [Function.comp_apply, hfound]

/-- A write under the key of the one before it replaces that one. -/
theorem put_put (key : κ) (value replaced : α) (ledger : Ledger κ α) :
    put key value (put key replaced ledger) = put key value ledger := by
  induction ledger with
  | nil => simp only [put, ↓reduceIte]
  | cons entry entries ih =>
      by_cases he : entry.1 = key
      · simp only [put, he, ↓reduceIte]
      · simp only [put, he, ↓reduceIte, ih]

/-- Writes under two keys may trade places if they do not both bring in a key. -/
theorem put_comm {key other : κ} (h : key ≠ other) {ledger : Ledger κ α}
    (hknown : key ∈ keys ledger) (value replaced : α) :
    put other replaced (put key value ledger) = put key value (put other replaced ledger) := by
  induction ledger with
  | nil => exact absurd hknown List.not_mem_nil
  | cons entry entries ih =>
      -- The walk ends at the known key at the latest, for both orders alike.
      by_cases hkey : entry.1 = key
      · simp only [put, hkey, ↓reduceIte, h]
      · rw [keys, List.map_cons, List.mem_cons] at hknown
        have hentries := hknown.resolve_left (Ne.symm hkey)
        by_cases hother : entry.1 = other
        · simp only [put, hother, Ne.symm h, ↓reduceIte]
        · simp only [put, hkey, ↓reduceIte, hother, ih hentries]

end Ledger

end DashKit
