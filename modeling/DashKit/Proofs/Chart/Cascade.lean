import DashKit.Design.Basic
import DashKit.Proofs.Chart.StyleSheet
import DashKit.Proofs.Ledger

/-!
# The Colors of a Chart on Its Page

What a document makes of the style block of a chart.

The scheme takes a long way to a bar. A person or the host picks it, the
document root is marked with it, the style block has a rule that only such a
root lets through, and the bar refers to a property. The mark on the root and
the selector of the rule are written in two places that share no constant, so
that the property has the color of the scheme in force is a fact about both.

`effective?` is the document's part: of the rules that apply it takes the last
declaration of a property. A style block declares each property once in
either rule, as no key stands twice in a configuration, so the rule for the
dark scheme replaces the other one whole where it applies.

## Main definitions

* `Rule.appliesTo`: The selector of a rule lets an element through.
* `effective?`: The value of a property on an element.
* `ChartConfig.ofAdditions`: A configuration by the series added to it.

## Theorems

* `effective?_style`: The value of a property under a style block.
* `ChartConfig.style_follows_scheme`: The colors of a chart are those of the
  scheme in force.
-/

namespace DashKit

/-- The rule applies to an element with some attributes inside a root with
    others. -/
def Rule.appliesTo (rule : Rule) (root element : List (String × String)) : Bool :=
  match rule.selector with
  | [inner] => element.contains inner
  | [outer, inner] => root.contains outer && element.contains inner
  | _ => false

/-- The declarations of the rules that apply to an element, in order. -/
def inForce (rules : List Rule) (root element : List (String × String)) : List (String × String) :=
  (rules.filter (·.appliesTo root element)).flatMap Rule.declarations

/-- The value of a property on an element: a later declaration replaces an
    earlier one, and so does a later rule. -/
def effective? (rules : List Rule) (root element : List (String × String)) (property : String) :
    Option String :=
  (inForce rules root element).reverse.lookup property

/-- Among pairs with different keys, looking up a key from the end finds the
    pair it stands in. -/
theorem lookup_reverse_eq_some {α β : Type} [DecidableEq α] {pairs : List (α × β)}
    (h : (pairs.map Prod.fst).Nodup) {key : α} {value : β} :
    pairs.reverse.lookup key = some value ↔ (key, value) ∈ pairs := by
  rw [List.lookup_eq_some_iff]
  constructor
  · rintro ⟨before, after, heq, _⟩
    rw [← List.mem_reverse, heq]
    exact List.mem_append_right before List.mem_cons_self
  · intro hmem
    rcases List.append_of_mem hmem with ⟨before, after, rfl⟩
    rw [List.map_append, List.map_cons, List.nodup_append, List.nodup_cons] at h
    have hreverse : (before ++ (key, value) :: after).reverse =
        after.reverse ++ (key, value) :: before.reverse := by
      simp only [List.reverse_append, List.reverse_cons, List.append_assoc, List.cons_append,
        List.nil_append]
    refine ⟨after.reverse, before.reverse, hreverse, ?_⟩
    intro pair hpair
    -- A pair behind has another key, as no key stands twice.
    have hafter := List.mem_map_of_mem (f := Prod.fst) (List.mem_reverse.mp hpair)
    rw [bne_iff_ne]
    exact fun heq => h.2.1.1 (heq ▸ hafter)

namespace StyleSheet

variable {raw : String} {colored : List (String × Color)}

theorem colorProperty_inj {key other : String} :
    colorProperty key = colorProperty other ↔ key = other :=
  String.append_right_inj _

/-- Under each scheme a property is declared once. -/
theorem nodup_declared (h : (colored.map Prod.fst).Nodup) (scheme : Scheme) :
    ((colored.map (declared scheme)).map Prod.fst).Nodup := by
  rw [List.map_map, List.nodup_iff_pairwise_ne, List.pairwise_map]
  rw [List.nodup_iff_pairwise_ne, List.pairwise_map] at h
  exact h.imp fun hne heq => hne (colorProperty_inj.mp heq)

theorem appliesTo_light (raw : String) (colored : List (String × Color))
    (root : List (String × String)) :
    (styleRule (chartId raw) colored .light).appliesTo root [chartMark (chartId raw)] = true := by
  simp only [Rule.appliesTo, styleRule, marks, List.contains_eq_mem, List.mem_cons,
    List.not_mem_nil, or_false, decide_true]

theorem appliesTo_dark (raw : String) (colored : List (String × Color))
    (root : List (String × String)) :
    (styleRule (chartId raw) colored .dark).appliesTo root [chartMark (chartId raw)] = true ↔
      ("data-theme", "dark") ∈ root := by
  simp [styleRule, marks, Rule.appliesTo]

/-- The declarations in force in a root that is marked dark exactly if the
    scheme is. -/
theorem inForce_style {root : List (String × String)} {scheme : Scheme}
    (hroot : ("data-theme", "dark") ∈ root ↔ scheme = .dark) :
    inForce [styleRule (chartId raw) colored .light, styleRule (chartId raw) colored .dark] root
        [chartMark (chartId raw)] =
      match scheme with
      | .light => colored.map (declared .light)
      | .dark => colored.map (declared .light) ++ colored.map (declared .dark) := by
  -- The light rule applies under both schemes, and the dark one joins it under its own.
  have hlight := appliesTo_light raw colored root
  have hdark := appliesTo_dark raw colored root
  rw [hroot] at hdark
  rw [inForce, List.filter_cons, if_pos hlight, List.filter_cons]
  cases scheme with
  | light =>
      rw [if_neg fun h => absurd (hdark.mp h) (by decide)]
      exact List.append_nil _
  | dark =>
      rw [if_pos (hdark.mpr rfl)]
      exact congrArg (colored.map (declared .light) ++ ·) (List.append_nil _)

/-- The value of a property under a style block. -/
theorem effective?_style (h : (colored.map Prod.fst).Nodup) {root : List (String × String)}
    {scheme : Scheme} (hroot : ("data-theme", "dark") ∈ root ↔ scheme = .dark)
    {property value : String} :
    effective? [styleRule (chartId raw) colored .light, styleRule (chartId raw) colored .dark]
        root [chartMark (chartId raw)] property = some value ↔
      (property, value) ∈ colored.map (declared scheme) := by
  have hlookup : ∀ scheme {value}, (colored.map (declared scheme)).reverse.lookup property =
      some value ↔ (property, value) ∈ colored.map (declared scheme) :=
    fun scheme _ => lookup_reverse_eq_some (nodup_declared h scheme)
  rw [effective?, inForce_style hroot]
  cases scheme with
  | light => exact hlookup .light
  | dark =>
      rw [List.reverse_append, List.lookup_append, Option.or_eq_some_iff, hlookup]
      refine ⟨fun hfound => hfound.elim id ?_, .inl⟩
      -- What the light rule declares, the dark one declares as well.
      rintro ⟨hnone, hlight⟩
      rcases List.mem_map.mp ((hlookup .light).mp hlight) with ⟨entry, hentry, heq⟩
      have hdark : (property, entry.2.shade .dark) ∈ colored.map (declared .dark) :=
        List.mem_map.mpr ⟨entry, hentry, Prod.ext (Prod.mk.inj heq).1 rfl⟩
      rw [(hlookup .dark).mpr hdark] at hnone
      exact absurd hnone (Option.some_ne_none _)

end StyleSheet

namespace ChartConfig

open StyleSheet

/-- The configuration that a list of additions makes, starting from none. -/
def ofAdditions (additions : List (String × Series)) : ChartConfig :=
  additions.foldl (fun config entry => config.add entry.1 entry.2) {}

theorem mem_colored {config : ChartConfig} {key : String} {color : Color} :
    (key, color) ∈ config.colored ↔ ∃ series, (key, series) ∈ config.series ∧
      series.color = some color := by
  simp only [colored, List.mem_filterMap, Option.map_eq_some_iff, Prod.mk.injEq]
  constructor
  · rintro ⟨⟨_, series⟩, hmem, _, hcolor, rfl, rfl⟩
    exact ⟨series, hmem, hcolor⟩
  · rintro ⟨series, hmem, hcolor⟩
    exact ⟨(key, series), hmem, color, hcolor, rfl, rfl⟩

/-- The keys of the series with a color are some of the keys, in order. -/
theorem keys_colored_sublist (config : ChartConfig) :
    (config.colored.map Prod.fst).Sublist (Ledger.keys config.series) := by
  rw [colored, Ledger.keys]
  -- Only the list of series matters here, not that it is a configuration's.
  generalize config.series = series
  induction series with
  | nil => exact .slnil
  | cons entry series ih =>
      cases hcolor : entry.2.color with
      | none =>
          rw [List.filterMap_cons_none (by rw [hcolor]; rfl)]
          exact ih.cons entry.1
      | some color =>
          rw [List.filterMap_cons_some (b := (entry.1, color)) (by rw [hcolor]; rfl)]
          exact ih.cons_cons entry.1

/-- Additions are writes to the series. -/
theorem ofAdditions_eq (additions : List (String × Series)) :
    ofAdditions additions = ⟨Ledger.putAll additions []⟩ :=
  List.foldl_hom ChartConfig.mk fun _ _ => rfl

theorem nodup_keys_ofAdditions (additions : List (String × Series)) :
    (Ledger.keys (ofAdditions additions).series).Nodup := by
  rw [ofAdditions_eq]
  exact Ledger.nodup_keys_putAll additions List.nodup_nil

/-- A configuration holds nothing that was not added to it. -/
theorem mem_of_mem_ofAdditions {additions : List (String × Series)} {entry : String × Series}
    (h : entry ∈ (ofAdditions additions).series) : entry ∈ additions := by
  rw [ofAdditions_eq] at h
  exact (Ledger.mem_of_mem_putAll h).resolve_right List.not_mem_nil

/-- A configuration has a style block exactly if a series has a color. -/
theorem style?_eq_none {config : ChartConfig} {id : String} :
    config.style? id = none ↔ ∀ entry ∈ config.series, entry.2.color = none := by
  rw [style?, ite_eq_left_iff, List.isEmpty_iff, colored]
  simp only [reduceCtorEq, imp_false, Decidable.not_not, List.filterMap_eq_nil_iff,
    Option.map_eq_none_iff]

/-- With a color there is a style block, which is a block for each scheme. -/
theorem style?_of_colored {config : ChartConfig} (h : config.colored ≠ []) (id : String) :
    config.style? id = some (String.ofList (styleBlock id config.colored .light ++ '\n' ::
      styleBlock id config.colored .dark)) := by
  rw [style?, if_neg]
  rwa [List.isEmpty_iff]

/-- For every series with a color the property of its key has, on the element
    of the chart, the color of the scheme in force, and no other property has
    a value. The first rule always applies there, and the second exactly if the
    root is marked dark. There is no style block only if no series has a
    color. -/
theorem style_follows_scheme {σ : Type} (source : SchemeSource σ) (p : Preferences) (world : σ)
    (raw : String) (additions : List (String × Series))
    (h : ∀ entry ∈ additions, Plain entry.1 ∧
      ∀ color ∈ entry.2.color, ∀ scheme, Plain (color.shade scheme)) :
    let config := ofAdditions additions
    let element := [("data-chart", chartId raw)]
    (config.style? (chartId raw) = none ↔ ∀ entry ∈ config.series, entry.2.color = none) ∧
      ∀ text, config.style? (chartId raw) = some text →
        ∃ first second, rules? text.toList = some [first, second] ∧
          (∀ root, first.appliesTo root element = true) ∧
          (∀ root, second.appliesTo root element = true ↔ ("data-theme", "dark") ∈ root) ∧
          ∀ property value,
            effective? [first, second] (p.attributes source world).1 element property =
                some value ↔
              ∃ entry ∈ config.series, ∃ color ∈ entry.2.color,
                colorProperty entry.1 = property ∧
                  color.shade (p.scheme source world).1 = value := by
  intro config element
  refine ⟨style?_eq_none, fun text htext => ?_⟩
  -- What is written was added at some time, so the condition on additions covers it.
  have hplain : ∀ entry ∈ config.colored, Plain entry.1 ∧
      ∀ scheme, Plain (entry.2.shade scheme) := by
    intro entry hentry
    rcases mem_colored.mp hentry with ⟨series, hmem, hcolor⟩
    have hadded := h _ (mem_of_mem_ofAdditions hmem)
    exact ⟨hadded.1, hadded.2 entry.2 hcolor⟩
  have hnodup : (config.colored.map Prod.fst).Nodup :=
    (keys_colored_sublist config).nodup (nodup_keys_ofAdditions additions)
  -- The root of the page is marked dark exactly under the dark scheme.
  have hroot : ("data-theme", "dark") ∈ (p.attributes source world).1 ↔
      (p.scheme source world).1 = .dark := p.dark_mem_attributes source world
  have hwritten : styleBlock (chartId raw) config.colored .light ++
      '\n' :: styleBlock (chartId raw) config.colored .dark = text.toList := by
    rw [style?] at htext
    split at htext
    · exact absurd htext (Option.some_ne_none text).symm
    · rw [← Option.some_inj.mp htext, String.toList_ofList]
  refine ⟨styleRule (chartId raw) config.colored .light,
    styleRule (chartId raw) config.colored .dark, hwritten ▸ rules?_style hplain,
    appliesTo_light raw _, appliesTo_dark raw _, fun property value => ?_⟩
  -- A property in force is the one of a colored series, read in both directions.
  refine (effective?_style hnodup hroot).trans (List.mem_map.trans ⟨?_, ?_⟩)
  · rintro ⟨entry, hentry, heq⟩
    rcases mem_colored.mp hentry with ⟨series, hmem, hcolor⟩
    exact ⟨_, hmem, entry.2, hcolor, congrArg Prod.fst heq, congrArg Prod.snd heq⟩
  · rintro ⟨entry, hmem, color, hcolor, rfl, rfl⟩
    exact ⟨(entry.1, color), mem_colored.mpr ⟨entry.2, hmem, hcolor⟩, rfl⟩

/-- A chart on a host that prefers dark colors. One series was replaced by one
    with a color for each scheme, and one has no color. -/
theorem style_follows_scheme_dark :
    let additions : List (String × Series) :=
      [("visits", ⟨"Visits", some (.fixed "red")⟩), ("rest", ⟨"Rest", none⟩),
        ("sales", ⟨"Sales", some (.fixed "hsl(12 76% 61%)")⟩),
        ("visits", ⟨"All visits", some (.themed "white" "black")⟩)]
    let element := [("data-chart", chartId "by \"day\"")]
    let root := (Preferences.attributes SchemeSource.signal {} true).1
    (∀ entry ∈ additions, Plain entry.1 ∧
      ∀ color ∈ entry.2.color, ∀ scheme, Plain (color.shade scheme)) ∧
      ∃ text first second, (ofAdditions additions).style? (chartId "by \"day\"") = some text ∧
        rules? text.toList = some [first, second] ∧ second.appliesTo root element = true ∧
        effective? [first, second] root element "--color-visits" = some "black" ∧
        effective? [first, second] root element "--color-sales" = some "hsl(12 76% 61%)" ∧
        ∀ value, effective? [first, second] root element "--color-rest" ≠ some value := by
  intro additions element root
  have hplain : ∀ entry ∈ additions, Plain entry.1 ∧
      ∀ color ∈ entry.2.color, ∀ scheme, Plain (color.shade scheme) := by decide
  rcases style_follows_scheme SchemeSource.signal {} true "by \"day\"" additions hplain with
    ⟨_, hstyle⟩
  have hcolored : (ofAdditions additions).style? (chartId "by \"day\"") ≠ none := by
    rw [Ne, style?_eq_none]
    decide
  rcases Option.ne_none_iff_exists'.mp hcolored with ⟨text, htext⟩
  rcases hstyle text htext with ⟨first, second, hrules, _, happlies, hvalue⟩
  refine ⟨hplain, text, first, second, htext, hrules, (happlies root).mpr (by decide),
    (hvalue _ _).mpr (by decide), (hvalue _ _).mpr (by decide), ?_⟩
  intro value h
  rcases (hvalue _ _).mp h with ⟨entry, hentry, color, hcolor, hkey, _⟩
  have hrest : ∀ entry ∈ (ofAdditions additions).series,
      colorProperty entry.1 = "--color-rest" → entry.2.color = none := by decide
  exact absurd ((hrest entry hentry hkey).symm.trans hcolor) (Option.some_ne_none color).symm

end ChartConfig

end DashKit
