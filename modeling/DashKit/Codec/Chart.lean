import DashKit.Chart.Config
import DashKit.Codec.Basic

/-!
# Charts in JSON

The JSON forms of colors, series and chart configurations.

A color is told by its shape alone: a string is a fixed color, a record with
one light and one dark string a themed one. To tell, the value is read as a
tree first, so whatever is wrong with its shape is a complaint about the color
as a whole. A configuration is a list of pairs, which keeps the order of the
series and any key that is given twice.

## Main definitions

* `Color.ofValue`: The color that a tree has the shape of.
* Codecs of `Color`, `Series` and `ChartConfig`.
-/

namespace DashKit

open Json

/-- The value under a key that occurs exactly once. -/
def onlyUnder (key : String) (members : List (String × Value)) : Option Value :=
  match members.filter fun member => member.1 == key with
  | [member] => some member.2
  | _ => none

/-- The color that a tree has the shape of. -/
def Color.ofValue : Value → Except Cause Color
  | .text css => .ok (.fixed css)
  | .record members =>
      match onlyUnder "light" members, onlyUnder "dark" members with
      | some (.text light), some (.text dark) => .ok (.themed light dark)
      | _, _ => .error (.noShape "ChartColor")
  | _ => .error (.noShape "ChartColor")

instance : Codec Color where
  reader depth := (Value.reader depth).sift Color.ofValue
  value
    | .fixed css => Codec.value css
    | .themed light dark => .record [("light", Codec.value light), ("dark", Codec.value dark)]

/-- The parts of a series read so far. -/
structure SeriesDraft where
  label : Option String := none
  color : Option Color := none

/-- A record of a label and, optionally, a color. -/
def seriesShape : Shape SeriesDraft Series where
  name := "ChartSeries"
  fields depth :=
    [.of depth "label" fun v draft => { draft with label := some v },
     .of depth "color" fun v draft => { draft with color := v }]
  blank := {}
  finish draft := (required "label" draft.label).map fun label => { label, color := draft.color }

instance : Codec Series where
  reader depth := .shape depth seriesShape
  value series :=
    .record [("label", Codec.value series.label), ("color", Codec.value series.color)]

/-- A record of a list of keys with their series. -/
def chartShape : Shape (Option (List (String × Series))) ChartConfig where
  name := "ChartConfig"
  fields depth := [.of depth "series" fun v _ => some v]
  blank := none
  finish draft := (required "series" draft).map fun series => { series }

instance : Codec ChartConfig where
  reader depth := .shape depth chartShape
  value config :=
    .record [("series", Codec.value (show List (String × Series) from config.series))]

end DashKit
