import DashKit.Proofs.Chart.Cascade
import Mathlib.Data.Finset.Card

/-!
# Series Added to a Chart

What a chart lists after any number of additions.

A legend and a style block go through the series in order, and a page adds its
series one by one, some of them a second time with another color. So both care
about the same two things: in which order the keys come out, and which of the
series under a key is the one that is left. The first is decided by the earliest
addition under a key and the second by the latest, so an addition has no effect
on the other keys at all, and it can move past a neighbour unless both of them
bring in a key.

Distinct keys are needed to say that a series is *the* one under its key. They
hold because nothing but additions made the chart, and they are lost for one that
was decoded from a text with a key given twice.

## Theorems

* `ChartConfig.ofAdditions_append`: Additions go on where earlier ones stopped.
* `ChartConfig.additions_ordered`: The series of a chart by what was added to it,
  and when two additions come to the same.
-/

namespace DashKit

namespace ChartConfig

/-- Additions go on where earlier ones stopped. -/
theorem ofAdditions_append (additions later : List (String × Series)) :
    ofAdditions (additions ++ later) =
      ⟨Ledger.putAll later (ofAdditions additions).series⟩ := by
  rw [ofAdditions_eq, ofAdditions_eq, Ledger.putAll_append]

theorem mem_keys_ofAdditions {additions : List (String × Series)} {key : String} :
    key ∈ Ledger.keys (ofAdditions additions).series ↔ key ∈ additions.map Prod.fst := by
  rw [ofAdditions_eq, Ledger.mem_keys_putAll]
  exact or_iff_right List.not_mem_nil

/-- A chart lists every key that was added once, in the order of first additions
    and with the series that was added under it last, and it has as many series
    as keys were added. An addition that is made twice in a row might as well be
    made once. Two in a row under different keys may trade places if one of the
    keys is known by then. -/
theorem additions_ordered (additions : List (String × Series)) :
    let config := ofAdditions additions
    (Ledger.keys config.series).Nodup ∧
      (config.series.map fun entry => (entry.1, some entry.2)) =
        ((additions.map Prod.fst).eraseDups.map fun key => (key, Ledger.last? key additions)) ∧
      config.series.length = (additions.map Prod.fst).toFinset.card ∧
      (∀ entry later, ofAdditions (additions ++ entry :: entry :: later) =
        ofAdditions (additions ++ entry :: later)) ∧
      ∀ first second later, first.1 ≠ second.1 → first.1 ∈ additions.map Prod.fst →
        ofAdditions (additions ++ first :: second :: later) =
          ofAdditions (additions ++ second :: first :: later) := by
  intro config
  have hconfig : config = ⟨Ledger.putAll additions []⟩ := ofAdditions_eq additions
  refine ⟨nodup_keys_ofAdditions additions, ?_, ?_, ?_, ?_⟩
  · rw [hconfig]
    exact Ledger.putAll_eq additions
  · rw [hconfig, List.card_toFinset]
    exact Ledger.length_putAll additions
  -- The second of two equal writes finds its own value.
  · intro entry later
    rw [ofAdditions_append, ofAdditions_append, Ledger.putAll_cons, Ledger.putAll_cons,
      Ledger.put_put, Ledger.putAll_cons]
  · intro first second later hne hknown
    rw [ofAdditions_append, ofAdditions_append]
    -- A known key keeps its place, so it does not matter which is written first.
    simp only [Ledger.putAll_cons]
    rw [Ledger.put_comm hne (mem_keys_ofAdditions.mpr hknown)]

/-- Of three additions the last replaces the first in its place. Two more that
    replace series may trade places. -/
theorem additions_ordered_replaced :
    let red : Series := ⟨"Visits", some (.fixed "red")⟩
    let plain : Series := ⟨"Sales", none⟩
    let themed : Series := ⟨"All visits", some (.themed "white" "black")⟩
    let additions := [("visits", red), ("sales", plain), ("visits", themed)]
    ((ofAdditions additions).series.map fun entry => (entry.1, some entry.2)) =
        [("visits", some themed), ("sales", some plain)] ∧
      (ofAdditions additions).series.length = 2 ∧
      ofAdditions (additions ++ [("sales", red), ("sales", red)]) =
        ofAdditions (additions ++ [("sales", red)]) ∧
      ofAdditions (additions ++ [("visits", plain), ("sales", red)]) =
        ofAdditions (additions ++ [("sales", red), ("visits", plain)]) := by
  intro red plain themed additions
  rcases additions_ordered additions with ⟨_, hseries, hlength, htwice, htrade⟩
  exact ⟨hseries.trans (by decide), hlength.trans (by decide), htwice _ [],
    htrade _ _ [] (by decide) (by decide)⟩

end ChartConfig

end DashKit
