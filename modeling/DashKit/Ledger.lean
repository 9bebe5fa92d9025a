/-!
# Ledgers

Values under keys, in the order in which the keys first came.

A chart lists its series in the order they were added, and a later value
under a key takes the place of the earlier one without moving it. A stored
text is looked up in the same kind of table. Both are lists of pairs with two
operations, `put` and `get?`.

## Main definitions

* `Ledger`: A list of keys with values.
* `Ledger.put`, `Ledger.get?`: Writing and looking up.

## Theorems

* `Ledger.get?_put`: What was written is found, other keys are untouched.
* `Ledger.keys_put`: A new key goes to the end, a known one stays.
* `Ledger.nodup_keys_put`: No key comes to stand twice.
-/

namespace DashKit

/-- Values under keys, in the order in which the keys first came. -/
abbrev Ledger (κ α : Type) := List (κ × α)

namespace Ledger

variable {κ α : Type} [DecidableEq κ]

/-- Writes a value under a key: in place if the key is known, else at the
    end. -/
def put (key : κ) (value : α) : Ledger κ α → Ledger κ α
  | [] => [(key, value)]
  | entry :: entries =>
      if entry.1 = key then (key, value) :: entries else entry :: put key value entries

/-- The value under a key. -/
def get? (key : κ) : Ledger κ α → Option α
  | [] => none
  | entry :: entries => if entry.1 = key then some entry.2 else get? key entries

/-- The keys in order. -/
def keys (ledger : Ledger κ α) : List κ :=
  ledger.map Prod.fst

/-- What was written is found, and other keys are untouched. -/
theorem get?_put (key k : κ) (value : α) (ledger : Ledger κ α) :
    (put key value ledger).get? k = if key = k then some value else ledger.get? k := by
  induction ledger with
  | nil => simp only [put, get?]
  | cons entry entries ih =>
      by_cases he : entry.1 = key
      · subst he
        by_cases hk : entry.1 = k <;> simp [put, get?, hk]
      · by_cases hk : entry.1 = k
        · subst hk
          simp [put, get?, he, Ne.symm he]
        · simp [put, get?, he, hk, ih]

/-- A new key goes to the end, and a known one stays where it is. -/
theorem keys_put (key : κ) (value : α) (ledger : Ledger κ α) :
    keys (put key value ledger) =
      if key ∈ keys ledger then keys ledger else keys ledger ++ [key] := by
  induction ledger with
  | nil => simp [put, keys]
  | cons entry entries ih =>
      by_cases he : entry.1 = key
      · simp [put, keys, he]
      · simp only [keys] at ih
        by_cases hk : key ∈ entries.map Prod.fst <;>
          simp [put, he, keys, ih, hk, Ne.symm he]

/-- What is in a ledger after a write was written or was there before. -/
theorem mem_of_mem_put {key : κ} {value : α} {ledger : Ledger κ α} {entry : κ × α}
    (h : entry ∈ put key value ledger) : entry = (key, value) ∨ entry ∈ ledger := by
  induction ledger with
  | nil => exact .inl (List.mem_singleton.mp h)
  | cons first entries ih =>
      rw [put] at h
      split at h
      · exact (List.mem_cons.mp h).imp_right (List.mem_cons_of_mem first)
      · rcases List.mem_cons.mp h with rfl | h
        · exact .inr List.mem_cons_self
        · exact (ih h).imp_right (List.mem_cons_of_mem first)

/-- A write leaves no key standing twice. -/
theorem nodup_keys_put {ledger : Ledger κ α} (key : κ) (value : α) (h : (keys ledger).Nodup) :
    (keys (put key value ledger)).Nodup := by
  rw [keys_put]
  split
  · exact h
  · next hnew =>
      rw [List.nodup_append]
      refine ⟨h, List.nodup_cons.mpr ⟨List.not_mem_nil, List.nodup_nil⟩, ?_⟩
      rintro a ha b hb rfl
      rw [List.mem_singleton] at hb
      exact hnew (hb ▸ ha)

end Ledger

end DashKit
