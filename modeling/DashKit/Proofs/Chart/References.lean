import DashKit.Page.Chart
import DashKit.Proofs.Chart.Keys
import DashKit.Proofs.Page.Markup

/-!
# The References of a Chart

What the parts of a chart on a page call each other by.

The name of a chart stands in three places of its text: the attribute of its
element and the selector of each block of its style sheet. The name of a color
stands in the declarations of both blocks and in the legend. No part looks at
another, and the places do not even agree on how they write. An attribute is
escaped, and a style sheet stands on the page as it is, so a name with an
ampersand is spelled in two ways. What a document compares are the spellings
after reading, and those coincide for every key.

A style sheet cannot be cut back into its declarations if a key or a color may
hold any character. So blocks are told from their printing side here: a
`Block` is data, and the text of the page is the one that such data is printed
as. The legend is read, as markup can be read whatever the keys and labels are.

## Main definitions

* `Html.component`: Markup as a component.
* `Block`, `Block.text`: A block of a style sheet, and how it is written.
* `chartPage`: The text of a chart around its legend.
* `legendEntry`: What the entry of a series is read as.

## Theorems

* `Html.render_components`: Markup is written as it is.
* `tokens?_legend`: The legend is read entry by entry.
* `ChartConfig.declarations_filter`: A property is declared for its series alone.
* `ChartConfig.write_chartHtml`: The text of a chart is put together from its
  name, its sheet and its legend.
* `ChartConfig.references_resolve`: The names that the parts of a chart use for
  each other are the same.
-/

namespace DashKit

variable {σ : Type}

/-! ### Markup as Components -/

namespace Html

mutual

/-- A node as a component without a context. -/
def component : Html → Component σ
  | text content => .text content
  | verbatim content => .verbatim content
  | element tag attributes children => .element tag attributes (components children)
  | void tag attributes => .void tag attributes

/-- Nodes as components. -/
def components : List Html → List (Component σ)
  | [] => []
  | node :: nodes => component node :: components nodes

end

theorem components_map {α : Type} (f : α → Html) (as : List α) :
    (components (as.map f) : List (Component σ)) = as.map fun a => component (f a) := by
  induction as with
  | nil => rfl
  | cons a as ih => rw [List.map_cons, List.map_cons, components, ih]

mutual

/-- There is nothing to do for markup in either round. -/
theorem build_component : ∀ node : Html,
    Component.build (component node : Component σ) = .done [node]
  | text _ => rfl
  | verbatim _ => rfl
  | element tag attributes children => by
      rw [component, Component.build, buildAll_components children]
      rfl
  | void _ _ => rfl

theorem buildAll_components : ∀ nodes : List Html,
    Component.buildAll (components nodes : List (Component σ)) = .done nodes
  | [] => rfl
  | node :: nodes => by
      rw [components, Component.buildAll, build_component node, buildAll_components nodes]
      rfl

end

/-- Markup is written as it is. -/
theorem render_components (nodes : List Html) (world : σ) :
    Component.render (components nodes) world = .ok (writeAll nodes, world) := by
  rw [Component.render, Component.page, buildAll_components]
  rfl

end Html

/-! ### The Name of a Chart -/

/-- The safe characters are the letters and digits of the alphabet without
    accents, the underscore and the hyphen. -/
theorem isIdChar_iff (c : Char) : isIdChar c = true ↔
    'A' ≤ c ∧ c ≤ 'Z' ∨ 'a' ≤ c ∧ c ≤ 'z' ∨ '0' ≤ c ∧ c ≤ '9' ∨ c = '_' ∨ c = '-' := by
  have hupper : c.isUpper = true ↔ 'A' ≤ c ∧ c ≤ 'Z' := decide_eq_true_iff
  have hlower : c.isLower = true ↔ 'a' ≤ c ∧ c ≤ 'z' :=
    Bool.and_eq_true_iff.trans (and_congr decide_eq_true_iff decide_eq_true_iff)
  have hdigit : c.isDigit = true ↔ '0' ≤ c ∧ c ≤ '9' :=
    Bool.and_eq_true_iff.trans (and_congr decide_eq_true_iff decide_eq_true_iff)
  have halphanum : c.isAlphanum = (c.isUpper || c.isLower || c.isDigit) := rfl
  -- Letters of both cases, digits and the two marks are what is left to compare.
  rw [isIdChar, halphanum]
  simp only [Bool.or_eq_true, hupper, hlower, hdigit, beq_iff_eq, or_assoc]

/-- No character of a name is escaped. -/
theorem escapeValue_chartId (raw : String) : escapeValue (chartId raw) = chartId raw := by
  have hsafe : ∀ c ∈ (chartId raw).toList, escapeValueChar c = [c] := by
    intro c hc
    -- The characters that have an escape are not safe.
    have hid := StyleSheet.isIdChar_of_mem_chartId hc
    unfold escapeValueChar
    split
    · exact absurd hid (by decide)
    · unfold escapeTextChar
      split
      · exact absurd hid (by decide)
      · exact absurd hid (by decide)
      · exact absurd hid (by decide)
      · rfl
  rw [escapeValue, List.flatMap_congr hsafe, List.flatMap_singleton', String.ofList_toList]

/-! ### Blocks -/

/-- A block of a style sheet for a chart. -/
structure Block where
  /-- What its selector asks for in front of the chart. -/
  scope : String
  /-- What stands in quotes in its selector. -/
  chart : String
  /-- Properties with their values. -/
  declarations : List (String × String)

/-- A block as it is written. -/
def Block.text (block : Block) : List Char :=
  block.scope.toList ++ "[data-chart=\"".toList ++ block.chart.toList ++ "\"] \x7b\n".toList
    ++ block.declarations.flatMap (fun entry => "  ".toList ++ entry.1.toList ++ ": ".toList
      ++ entry.2.toList ++ ";\n".toList)
    ++ ['\x7d']

/-- A style sheet with a block for each scheme, if there is one. -/
def sheetText : Option (Scheme → Block) → String
  | none => ""
  | some block => "<style>"
      ++ String.ofList ((block .light).text ++ '\n' :: (block .dark).text) ++ "</style>"

/-- A chart around the text of its legend. -/
def chartPage (chart : String) (sheet : Option (Scheme → Block)) (legend : String) : String :=
  "<div data-chart=\"" ++ chart ++ "\" class=\"chart\">" ++ sheetText sheet ++ legend ++ "</div>"

/-- What the entry of a series is read as: its swatch refers to the property of
    its key. -/
def legendEntry (entry : String × Series) : List Token :=
  [.opening "li" [("class", "chart-legend__item")],
   .opening "span" [("class", "chart-legend__swatch"),
     ("style", "background: var(--color-" ++ entry.1 ++ ");")],
   .closing "span",
   .text (if entry.2.label.isEmpty then " " else entry.2.label),
   .closing "li"]

/-! ### The Markup of a Chart -/

/-- The entry of a series. -/
def legendItemHtml (entry : String × Series) : Html :=
  .element "li" (classed "chart-legend__item")
    [.element "span"
      { className := some "chart-legend__swatch"
        style := some ("background: " ++ colorReference entry.1) } [],
     .text entry.2.label]

/-- The legend of a chart. -/
def legendHtml (config : ChartConfig) : Html :=
  .element "ul" (classed "chart-legend") (config.series.map legendItemHtml)

/-- A chart around its legend. -/
def chartHtml (raw : String) (config : ChartConfig) : Html :=
  .element "div" { named := [valued "data-chart" (chartId raw)], className := some "chart" }
    ((config.style? (chartId raw)).toList.map (fun css => .element "style" {} [.verbatim css])
      ++ [legendHtml config])

/-- The legend is markup. -/
theorem chartLegend_eq (config : ChartConfig) :
    (chartLegend config : Component σ) = (legendHtml config).component := by
  rw [chartLegend, legendHtml, Html.component, Html.components_map]
  rfl

/-- A chart around its legend is markup. -/
theorem chartContainer_eq (raw : String) (config : ChartConfig) :
    (chartContainer raw config [chartLegend config] : Component σ) =
      (chartHtml raw config).component := by
  rw [chartLegend_eq, chartContainer, chartHtml]
  -- With a style block the chart has one child more.
  cases config.style? (chartId raw) <;> rfl

theorem tokens_legendItem (entry : String × Series) :
    (legendItemHtml entry).tokens = legendEntry entry := by
  have hstyle : "background: " ++ colorReference entry.1 ++ ";" =
      "background: var(--color-" ++ entry.1 ++ ");" :=
    String.toList_inj.mp (by simp [colorReference, colorProperty])
  simp [legendItemHtml, legendEntry, Html.tokens, Html.tokensAll, Attributes.pairs, classed, hstyle]

/-- The legend is read entry by entry. -/
theorem tokens?_legend (config : ChartConfig) :
    Markup.tokens? (legendHtml config).write.toList =
      some (.opening "ul" [("class", "chart-legend")] ::
        (config.series.flatMap legendEntry ++ [.closing "ul"])) := by
  -- Every entry of a legend has a tag and attributes that can be read back.
  have hitems : Html.allReadable (config.series.map legendItemHtml) = true :=
    Html.allReadable_map (fun _ => rfl) (fun _ => rfl) config.series
  have hlegend : Html.allReadable [legendHtml config] = true := by
    simp only [legendHtml, Html.allReadable, Html.isReadable, hitems]
    rfl
  have htokens : Html.tokensAll [legendHtml config] =
      .opening "ul" [("class", "chart-legend")] ::
        (config.series.flatMap legendEntry ++ [.closing "ul"]) := by
    simp only [legendHtml, Html.tokensAll, Html.tokens, Html.tokensAll_map, tokens_legendItem,
      List.append_nil]
    rfl
  have hread := Html.tokens?_written hlegend
  rwa [htokens, Html.writeAll_singleton] at hread

/-- A key is escaped in the legend, though not in a sheet. -/
example : (legendItemHtml ("R&D", ⟨"R&D", none⟩)).write =
    "<li class=\"chart-legend__item\">"
      ++ "<span class=\"chart-legend__swatch\" style=\"background: var(--color-R&amp;D);\"></span>"
      ++ "R&amp;D</li>" := by
  decide

namespace ChartConfig

open StyleSheet

/-- What a series declares under a scheme. -/
def declarationsOf (scheme : Scheme) (entry : String × Series) : List (String × String) :=
  entry.2.color.toList.map fun color => ("--color-" ++ entry.1, color.shade scheme)

theorem map_declared_colored (config : ChartConfig) (scheme : Scheme) :
    config.colored.map (declared scheme) = config.series.flatMap (declarationsOf scheme) := by
  rw [colored, List.map_filterMap, List.filterMap_eq_flatMap_toList]
  refine List.flatMap_congr ?_
  intro entry _
  cases hcolor : entry.2.color <;> simp [declarationsOf, declared, colorProperty, hcolor]

/-- A series declares the property of its key and no other. -/
theorem filter_declarationsOf (scheme : Scheme) (entry : String × Series) (key : String) :
    (declarationsOf scheme entry).filter (·.1 = "--color-" ++ key) =
      if entry.1 = key then declarationsOf scheme entry else [] := by
  -- Whatever a series declares has its own key in the name.
  have hname : ∀ pair ∈ declarationsOf scheme entry, pair.1 = "--color-" ++ entry.1 := by
    intro pair hpair
    rcases List.mem_map.mp hpair with ⟨color, _, rfl⟩
    rfl
  split
  · next heq =>
      rw [List.filter_eq_self]
      exact fun pair hpair => decide_eq_true (heq ▸ hname pair hpair)
  · next hne =>
      rw [List.filter_eq_nil_iff]
      intro pair hpair
      rw [hname pair hpair, decide_eq_true_eq]
      exact fun heq => hne (colorProperty_inj.mp heq)

/-- Among distinct keys a property is declared for the series of its key and
    for no other. -/
theorem declarations_filter {config : ChartConfig} (h : (Ledger.keys config.series).Nodup)
    (scheme : Scheme) {entry : String × Series} (hentry : entry ∈ config.series) :
    (config.colored.map (declared scheme)).filter (·.1 = "--color-" ++ entry.1) =
      declarationsOf scheme entry := by
  rcases exists_append_of_nodup h hentry with ⟨before, after, hseries, hothers⟩
  -- The series around this one have other keys, so they declare other properties.
  have hnone : ∀ others : List (String × Series), (∀ other ∈ others, other.1 ≠ entry.1) →
      (others.flatMap fun other =>
        if other.1 = entry.1 then declarationsOf scheme other else []) = [] :=
    fun others hne => List.flatMap_eq_nil_iff.mpr fun other hmem => if_neg (hne other hmem)
  simp only [map_declared_colored, List.filter_flatMap, filter_declarationsOf]
  rw [hseries, List.flatMap_append, List.flatMap_cons,
    hnone before fun other hmem => hothers other (List.mem_append_left after hmem),
    hnone after fun other hmem => hothers other (List.mem_append_right before hmem),
    if_pos rfl, List.nil_append, List.append_nil]

/-- The block of a configuration for a scheme. -/
def block (config : ChartConfig) (id : String) (scheme : Scheme) : Block :=
  ⟨schemeSelector scheme, id, config.colored.map (declared scheme)⟩

theorem text_block (config : ChartConfig) (id : String) (scheme : Scheme) :
    (config.block id scheme).text = styleBlock id config.colored scheme := by
  rw [Block.text, block, List.flatMap_map]
  rfl

/-- The sheet of a configuration, if a series has a color. -/
def sheet (config : ChartConfig) (id : String) : Option (Scheme → Block) :=
  if config.colored.isEmpty then none else some (config.block id)

theorem write_style (config : ChartConfig) (id : String) :
    Html.writeAll ((config.style? id).toList.map fun css => .element "style" {} [.verbatim css]) =
      sheetText (config.sheet id) := by
  have hbare : Attributes.write {} = "" := rfl
  rw [style?, sheet]
  split
  · rfl
  · rw [Option.toList_some, List.map_singleton, Html.writeAll_singleton, Html.write,
      Html.writeAll_singleton, Html.write, hbare, sheetText, text_block, text_block,
      ← String.toList_inj]
    simp

/-- The attributes of a chart on its page. -/
theorem write_attributes_chart (raw : String) :
    Attributes.write { named := [valued "data-chart" (chartId raw)], className := some "chart" } =
      " data-chart=\"" ++ chartId raw ++ "\" class=\"chart\"" := by
  -- The name has no character that would be escaped in an attribute.
  have hclass : Attributes.writeOptional "class" (some "chart") = " class=\"chart\"" := rfl
  rw [Attributes.write, List.foldr_cons, valued, Attributes.writeOne, escapeValue_chartId, hclass,
    ← String.toList_inj]
  simp [Attributes.writeOptional]

/-- The text of a chart is put together from its name, its sheet and its
    legend. -/
theorem write_chartHtml (raw : String) (config : ChartConfig) :
    (chartHtml raw config).write =
      chartPage (chartId raw) (config.sheet (chartId raw)) (legendHtml config).write := by
  -- Both sides are the same pieces, grouped in different ways.
  unfold chartPage
  rw [chartHtml, Html.write, Html.writeAll_append, Html.writeAll_singleton, write_style,
    write_attributes_chart, ← String.toList_inj]
  simp only [String.reduceAppend, String.toList_append, String.reduceToList, List.cons_append,
    List.nil_append, List.append_assoc]

/-- A sheet is there exactly if a series has a color. -/
theorem isSome_sheet (config : ChartConfig) (id : String) :
    (config.sheet id).isSome = true ↔ ∃ entry ∈ config.series, entry.2.color.isSome = true := by
  have hstyle : config.sheet id = none ↔ config.style? id = none := by
    rw [sheet, style?]
    split <;> simp only [reduceCtorEq]
  rw [Option.isSome_iff_ne_none, Ne, hstyle, style?_eq_none]
  simp only [not_forall, exists_prop, Option.isSome_iff_ne_none, ne_eq]

theorem eq_block_of_sheet {config : ChartConfig} {id : String} {block : Scheme → Block}
    (h : block ∈ config.sheet id) : block = config.block id := by
  rw [sheet] at h
  split at h
  · exact absurd h (Option.not_mem_none block)
  · exact (Option.some_inj.mp h).symm

/-- The text of a chart with its legend, for any identifier and any series. The
    chart is named by the safe characters of its identifier, which is what the
    attribute says without an escape and what both selectors ask for. There is a
    sheet exactly if a series has a color, and either block of it declares the
    property of a series once if the series has a color and not at all if it has
    none. The legend has an entry for each series in order, and as it is read the
    swatch of a series refers to just that property. -/
theorem references_resolve (raw : String) (additions : List (String × Series)) (world : σ) :
    let config := ofAdditions additions
    ∃ (chart legend : String) (sheet : Option (Scheme → Block)),
      Component.render [chartContainer raw config [chartLegend config]] world =
          .ok (chartPage chart sheet legend, world) ∧
        chart.toList = "chart-".toList ++ raw.toList.filter (fun c =>
          'A' ≤ c ∧ c ≤ 'Z' ∨ 'a' ≤ c ∧ c ≤ 'z' ∨ '0' ≤ c ∧ c ≤ '9' ∨ c = '_' ∨ c = '-') ∧
        escapeValue chart = chart ∧
        (sheet.isSome = true ↔ ∃ entry ∈ config.series, entry.2.color.isSome = true) ∧
        (∀ block ∈ sheet, ∀ scheme,
          (block scheme).scope = schemeSelector scheme ∧ (block scheme).chart = chart ∧
          ∀ entry ∈ config.series,
            (block scheme).declarations.filter (·.1 = "--color-" ++ entry.1) =
              entry.2.color.toList.map fun color =>
                ("--color-" ++ entry.1, color.shade scheme)) ∧
        Markup.tokens? legend.toList =
          some (.opening "ul" [("class", "chart-legend")] ::
            (config.series.flatMap legendEntry ++ [.closing "ul"])) := by
  intro config
  have hpage : Component.render [chartContainer raw config [chartLegend config]] world =
      .ok (chartPage (chartId raw) (config.sheet (chartId raw)) (legendHtml config).write,
        world) := by
    rw [← write_chartHtml, ← Html.writeAll_singleton, chartContainer_eq]
    exact Html.render_components [chartHtml raw config] world
  have hname : (chartId raw).toList = "chart-".toList ++ raw.toList.filter (fun c =>
      'A' ≤ c ∧ c ≤ 'Z' ∨ 'a' ≤ c ∧ c ≤ 'z' ∨ '0' ≤ c ∧ c ≤ '9' ∨ c = '_' ∨ c = '-') := by
    have hid : (chartId raw).toList = "chart-".toList ++ raw.toList.filter isIdChar :=
      String.toList_ofList
    rw [hid]
    refine congrArg ("chart-".toList ++ ·) (List.filter_congr ?_)
    intro c _
    rw [Bool.eq_iff_iff, decide_eq_true_eq]
    exact isIdChar_iff c
  refine ⟨chartId raw, (legendHtml config).write, config.sheet (chartId raw), hpage, hname,
    escapeValue_chartId raw, isSome_sheet config _, ?_, tokens?_legend config⟩
  intro block hblock scheme
  rw [eq_block_of_sheet hblock]
  exact ⟨rfl, rfl, fun entry hentry =>
    declarations_filter (nodup_keys_ofAdditions additions) scheme hentry⟩

end ChartConfig

end DashKit
