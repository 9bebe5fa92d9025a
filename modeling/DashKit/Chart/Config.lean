import DashKit.Ledger
import DashKit.Preference.Axis

/-!
# Chart Configurations

The series of a chart and the style block that gives them their colors.

A series is drawn in `var(--color-KEY)`. The style block of a chart defines
that property for every series with a color, once for each scheme: the first
block holds for the chart anywhere, the second only under a root that is
marked dark, and it comes later so that it wins where both apply. A series
with one color for all schemes is written into both blocks.

The blocks select their chart by its identifier inside quotes. An identifier
made by `chartId` keeps only characters that are safe there.

## Main definitions

* `Color`, `Color.shade`: A color, and what it is under a scheme.
* `Series`, `ChartConfig`: A series, and the series of a chart by key.
* `ChartConfig.add`: Adding or replacing a series.
* `chartId`: An identifier that is safe inside quotes.
* `ChartConfig.style?`: The style block of a chart.
-/

namespace DashKit

/-- The color of a series. -/
inductive Color
  /-- The same under every scheme. -/
  | fixed (css : String)
  /-- One for each scheme. -/
  | themed (light dark : String)
  deriving DecidableEq, Repr

/-- The color under a scheme. -/
def Color.shade : Color → Scheme → String
  | fixed css, _ => css
  | themed light _, .light => light
  | themed _ dark, .dark => dark

/-- A series of a chart: its label and, if it has one, its color. -/
structure Series where
  label : String
  color : Option Color := none
  deriving DecidableEq, Repr

/-- The series of a chart by key, in order. -/
structure ChartConfig where
  series : Ledger String Series := []
  deriving DecidableEq, Repr

namespace ChartConfig

/-- Adds a series, or replaces the one under the same key in its place. -/
def add (config : ChartConfig) (key : String) (series : Series) : ChartConfig :=
  ⟨config.series.put key series⟩

/-- The series that have a color, with their keys and in order. -/
def colored (config : ChartConfig) : List (String × Color) :=
  config.series.filterMap fun entry => entry.2.color.map fun color => (entry.1, color)

end ChartConfig

/-- The characters that are safe in a quoted selector. -/
def isIdChar (c : Char) : Bool :=
  c.isAlphanum || c == '_' || c == '-'

/-- The identifier of a chart, made of the safe characters of a text. -/
def chartId (raw : String) : String :=
  String.ofList ("chart-".toList ++ raw.toList.filter isIdChar)

/-- The name of the property that holds the color of a series. -/
def colorProperty (key : String) : String :=
  "--color-" ++ key

/-- The selector that limits a block to a scheme. -/
def schemeSelector : Scheme → String
  | .light => ""
  | .dark => "[data-theme=dark] "

/-- The declaration of one color, on a line of its own. -/
def declaration (scheme : Scheme) (entry : String × Color) : List Char :=
  "  ".toList ++ (colorProperty entry.1).toList ++ ": ".toList
    ++ (entry.2.shade scheme).toList ++ ";\n".toList

/-- The declarations of all colors under one scheme. -/
def styleBlock (id : String) (colored : List (String × Color)) (scheme : Scheme) : List Char :=
  (schemeSelector scheme).toList ++ "[data-chart=\"".toList ++ id.toList ++ "\"] \x7b\n".toList
    ++ colored.flatMap (declaration scheme) ++ ['\x7d']

/-- The style block of a chart, if a series has a color. -/
def ChartConfig.style? (config : ChartConfig) (id : String) : Option String :=
  if config.colored.isEmpty then none
  else
    some (String.ofList (styleBlock id config.colored .light ++ '\n' ::
      styleBlock id config.colored .dark))

end DashKit
