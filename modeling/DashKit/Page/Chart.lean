import DashKit.Chart.Config
import DashKit.Chart.Heights
import DashKit.Number.Layout
import DashKit.Page.Component

/-!
# Charts on a Page

The markup of charts: the container with its style block, the legend, and the
bars of one series.

A container writes the identifier of its chart into an attribute and into the
selectors of its style block. Whatever is drawn inside refers to the colors by
the names of their properties, and so the legend and the bars know nothing of
colors or schemes.

## Main definitions

* `chartContainer`: A chart with its style block.
* `chartLegend`: An entry for each series.
* `chartBars`: The bars of one series.
-/

namespace DashKit

variable {σ : Type}

/-- A chart with its style block, if one of its series has a color. -/
def chartContainer (id : String) (config : ChartConfig) (children : List (Component σ)) :
    Component σ :=
  let chart := chartId id
  let style := (config.style? chart).toList.map fun css =>
    .element "style" {} [.verbatim css]
  .element "div" { named := [valued "data-chart" chart], className := some "chart" }
    (style ++ children)

/-- A reference to the color of a series. -/
def colorReference (key : String) : String :=
  "var(" ++ colorProperty key ++ ")"

/-- The entry of a series in a legend. -/
def legendItem (key : String) (series : Series) : Component σ :=
  .element "li" (classed "chart-legend__item")
    [.element "span"
      { className := some "chart-legend__swatch"
        style := some ("background: " ++ colorReference key) } [],
     .text series.label]

/-- A legend with an entry for each series, in order. -/
def chartLegend (config : ChartConfig) : Component σ :=
  .element "ul" (classed "chart-legend")
    (config.series.map fun entry => legendItem entry.1 entry.2)

/-- The values of bars are written out positionally, whole ones without a
    point, and a tie goes up. -/
def barNumbers : NumberStyle where
  tie := .up
  positional := fun _ => true
  wholeMark := ""

/-- One bar with its label. -/
def chartBar (key label : String) (height value : Float) : Component σ :=
  .element "div"
    { named := [valued "title" (label ++ ": " ++ barNumbers.render value)]
      className := some "chart-bars__bar" }
    [.element "div"
      { className := some "chart-bars__fill"
        style := some ("height: " ++ fixedTenths height ++ "%; background: "
          ++ colorReference key) } [],
     .element "span" (classed "chart-bars__label") [.text label]]

/-- The bars of one series. The shorter of the two lists decides how many
    there are, but all values count for the heights. -/
def chartBars (key : String) (labels : List String) (values : List Float) : Component σ :=
  let bars := labels.zip ((Bars.percentages values).zip values)
  .element "div" (classed "chart-bars")
    (bars.map fun bar => chartBar key bar.1 bar.2.1 bar.2.2)

end DashKit
