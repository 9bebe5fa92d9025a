import DashKit.Proofs.Chart.Cascade
import DashKit.Proofs.Codec.Faithful
import Mathlib.Data.List.Nodup

/-!
# Keys That Stand Once

Whether a chart has one series for a key, and who sees to that.

A configuration is a list of pairs, and adding a series replaces the first pair
with its key. Nothing else looks at the keys. So adding keeps keys distinct
that are distinct, and of a key that stands twice it replaces one pair and
leaves the other, whose color is then the one a document goes by.

Configurations that were built by adding have distinct keys. A configuration
that was decoded has the keys of its text, and there is a text for every
configuration: decoding compares no keys, so it depends on the text whether a
replaced series is gone.

## Main definitions

* `ChartConfig.addAll`: A configuration after some additions.
* `ChartConfig.Holds`: One series under a key, with the color that counts.

## Theorems

* `Ledger.filter_put`: A write replaces the first pair of a key.
* `ChartConfig.holds_add`: Among distinct keys an added series is held.
* `ChartConfig.holds_add_iff_nodup`: Added series are held exactly if the keys
  were distinct in the beginning.
-/

namespace DashKit

namespace Ledger

variable {κ α : Type} [DecidableEq κ]

/-- A write replaces the first pair of its key and no further one. -/
theorem filter_put (key : κ) (value : α) (ledger : Ledger κ α) :
    (put key value ledger).filter (·.1 = key) =
      (key, value) :: (ledger.filter (·.1 = key)).tail := by
  induction ledger with
  | nil => simp only [put, decide_true, List.filter_cons_of_pos, List.filter_nil, List.tail_nil]
  | cons entry entries ih =>
      -- The first pair of the key is replaced and the search ends there, so others may
      -- be left behind it.
      by_cases he : entry.1 = key
      · simp only [put, he, ↓reduceIte, decide_true, List.filter_cons_of_pos, List.tail_cons]
      · simp only [put, he, ↓reduceIte, decide_false, Bool.false_eq_true, not_false_eq_true,
          List.filter_cons_of_neg, ih]

theorem mem_put (key : κ) (value : α) (ledger : Ledger κ α) :
    (key, value) ∈ put key value ledger := by
  have hmem : (key, value) ∈ (put key value ledger).filter (·.1 = key) := by
    rw [filter_put]
    exact List.mem_cons_self
  exact (List.mem_filter.mp hmem).1

/-- Distinctness of keys is neither lost nor won by a write. -/
theorem nodup_keys_put_iff (key : κ) (value : α) (ledger : Ledger κ α) :
    (keys (put key value ledger)).Nodup ↔ (keys ledger).Nodup := by
  refine ⟨?_, nodup_keys_put key value⟩
  intro h
  -- A write keeps the keys or puts one behind them.
  rw [keys_put] at h
  split at h
  · exact h
  · exact (List.nodup_append.mp h).1

theorem length_filter_key (key : κ) (ledger : Ledger κ α) :
    (ledger.filter (·.1 = key)).length = (keys ledger).count key := by
  rw [keys, List.count_eq_length_filter, List.filter_map, List.length_map]
  rfl

/-- Keys are distinct exactly if writing under any of them leaves one pair for
    it. -/
theorem nodup_keys_iff_filter_put (value : α) {ledger : Ledger κ α} :
    (keys ledger).Nodup ↔
      ∀ key, (put key value ledger).filter (·.1 = key) = [(key, value)] := by
  -- The tail of the pairs of a key is empty exactly if there is at most one of them.
  simp only [List.nodup_iff_count_le_one, ← length_filter_key, filter_put, List.cons.injEq,
    true_and, ← List.length_eq_zero_iff, List.length_tail, Nat.sub_eq_zero_iff_le]

end Ledger

/-- Among pairs with different keys, those around a pair have other keys. -/
theorem exists_append_of_nodup {α β : Type} {pairs : List (α × β)}
    (h : (pairs.map Prod.fst).Nodup) {key : α} {value : β} (hmem : (key, value) ∈ pairs) :
    ∃ before after, pairs = before ++ (key, value) :: after ∧
      ∀ pair ∈ before ++ after, pair.1 ≠ key := by
  rcases List.append_of_mem hmem with ⟨before, after, rfl⟩
  rw [List.map_append, List.map_cons, List.nodup_middle, List.nodup_cons,
    ← List.map_append] at h
  -- The same key on either side would stand twice among the keys.
  refine ⟨before, after, rfl, fun pair hpair heq => h.1 ?_⟩
  exact List.mem_map.mpr ⟨pair, hpair, heq⟩

namespace ChartConfig

open Json StyleSheet

/-- A configuration after some additions. -/
def addAll (config : ChartConfig) (additions : List (String × Series)) : ChartConfig :=
  additions.foldl (fun config entry => config.add entry.1 entry.2) config

/-- A configuration holds a series under a key: there is no other series for
    the key, and in either block the last declaration for it is of the color of
    the series. The other declarations are not for the key at all, and of plain
    texts a document reads the color that was meant. -/
structure Holds (config : ChartConfig) (key : String) (series : Series) : Prop where
  entry : config.series.filter (·.1 = key) = [(key, series)]
  declared : ∀ color ∈ series.color, ∀ id, ∃ text before after,
    config.style? id = some text ∧ (∀ other ∈ before ++ after, other.1 ≠ key) ∧
      text.toList = styleBlock id (before ++ (key, color) :: after) .light ++ '\n' ::
        styleBlock id (before ++ (key, color) :: after) .dark
  read : ∀ color ∈ series.color, (∀ entry ∈ config.colored, Plain entry.1 ∧
      ∀ scheme, Plain (entry.2.shade scheme)) →
    ∀ raw, ∃ text first second, config.style? (chartId raw) = some text ∧
      rules? text.toList = some [first, second] ∧
      first.declarations.reverse.lookup (colorProperty key) = some (color.shade .light) ∧
      second.declarations.reverse.lookup (colorProperty key) = some (color.shade .dark)

theorem nodup_keys_addAll (config : ChartConfig) (additions : List (String × Series)) :
    (Ledger.keys (config.addAll additions).series).Nodup ↔ (Ledger.keys config.series).Nodup := by
  induction additions generalizing config with
  | nil => rfl
  | cons entry additions ih =>
      exact (ih _).trans (Ledger.nodup_keys_put_iff entry.1 entry.2 config.series)

/-- Among distinct keys a series that was added is held. -/
theorem holds_add {config : ChartConfig} (h : (Ledger.keys config.series).Nodup) (key : String)
    (series : Series) : (config.add key series).Holds key series := by
  have hcolored : ∀ color ∈ series.color, (key, color) ∈ (config.add key series).colored :=
    fun color hcolor => mem_colored.mpr ⟨series, Ledger.mem_put key series config.series, hcolor⟩
  -- Among distinct keys the declaration of this one is alone in each block.
  have hnodup : ((config.add key series).colored.map Prod.fst).Nodup :=
    (keys_colored_sublist _).nodup (Ledger.nodup_keys_put key series h)
  refine ⟨(Ledger.nodup_keys_iff_filter_put series).mp h key, ?_, ?_⟩
  · intro color hcolor id
    rcases exists_append_of_nodup hnodup (hcolored color hcolor) with
      ⟨before, after, heq, hothers⟩
    have hsome := List.ne_nil_of_mem (hcolored color hcolor)
    refine ⟨_, before, after, style?_of_colored hsome id, hothers, ?_⟩
    rw [String.toList_ofList, heq]
  · intro color hcolor hplain raw
    have hlast : ∀ scheme, (styleRule (chartId raw) (config.add key series).colored
        scheme).declarations.reverse.lookup (colorProperty key) = some (color.shade scheme) :=
      fun scheme => (lookup_reverse_eq_some (nodup_declared hnodup scheme)).mpr
        (List.mem_map_of_mem (hcolored color hcolor))
    have hsome := List.ne_nil_of_mem (hcolored color hcolor)
    refine ⟨_, _, _, style?_of_colored hsome _, ?_, hlast .light, hlast .dark⟩
    rw [String.toList_ofList]
    exact rules?_style hplain

theorem decode_encode (config : ChartConfig) : decode ChartConfig (encode config) = .ok config := by
  refine decode_eq_ok.mpr ⟨[], ?_, rfl⟩
  rw [toList_encode, ← List.append_nil (Codec.value config).write]
  exact exact_chart.run_append (by decide) config []

/-- Additions to nothing make distinct keys. But any configuration is what some
    text decodes to, so decoding says nothing about keys. Further additions
    keep them as distinct or not as they were, and distinct keys are just what
    it takes for every series that is added then to be held. -/
theorem holds_add_iff_nodup (base : ChartConfig) (additions : List (String × Series)) :
    let config := base.addAll additions
    (Ledger.keys (ofAdditions additions).series).Nodup ∧
      (∃ text, decode ChartConfig text = .ok base) ∧
      ((Ledger.keys config.series).Nodup ↔ (Ledger.keys base.series).Nodup) ∧
      ((Ledger.keys base.series).Nodup ↔
        ∀ key series, (config.add key series).Holds key series) := by
  intro config
  have hkeys := nodup_keys_addAll base additions
  refine ⟨nodup_keys_ofAdditions additions, ⟨encode base, decode_encode base⟩, hkeys,
    hkeys.symm.trans ⟨holds_add, ?_⟩⟩
  intro hholds
  -- One series that is held under every key is enough.
  exact (Ledger.nodup_keys_iff_filter_put ⟨"", none⟩).mpr fun key => (hholds key _).entry

/-- A text that gives a key twice is accepted. Of the two series one is
    replaced and the other stays, and its color is declared last. -/
theorem key_given_twice :
    let text := "\x7b\"series\":[[\"a\",\x7b\"label\":\"A\",\"color\":\"red\"\x7d]," ++
      "[\"a\",\x7b\"label\":\"A2\",\"color\":\"blue\"\x7d]]\x7d"
    let series : Series := ⟨"new", some (.fixed "green")⟩
    ∃ base, decode ChartConfig text = .ok base ∧ ¬(Ledger.keys base.series).Nodup ∧
      ¬(base.add "a" series).Holds "a" series ∧
      (base.add "a" series).series = [("a", series), ("a", ⟨"A2", some (.fixed "blue")⟩)] ∧
      (base.add "a" series).style? "chart-q3" =
        some ("[data-chart=\"chart-q3\"] \x7b\n  --color-a: green;\n  --color-a: blue;\n\x7d\n" ++
          "[data-theme=dark] [data-chart=\"chart-q3\"] " ++
          "\x7b\n  --color-a: green;\n  --color-a: blue;\n\x7d") := by
  intro text series
  let base : ChartConfig :=
    ⟨[("a", ⟨"A", some (.fixed "red")⟩), ("a", ⟨"A2", some (.fixed "blue")⟩)]⟩
  have hdecode : decode ChartConfig (encode base) = .ok base := decode_encode base
  rw [show encode base = text by rfl] at hdecode
  -- The first pair of the key was replaced, and the second is still there.
  refine ⟨base, hdecode, by decide, ?_, by decide, by decide +kernel⟩
  intro hholds
  exact absurd hholds.entry (by decide)

end ChartConfig

end DashKit
