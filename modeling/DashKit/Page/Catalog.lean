import DashKit.Page.Button
import DashKit.Page.Chart

/-!
# The Catalog Page

A page with one story for each family of components.

A story shows its components under the preferences in force. The last one has
a sidebar of its own: it starts collapsed, keeps its flag to itself, and leaves
the keyboard to the sidebar of the page.

## Main definitions

* `Story`: A story, and its components.
* `catalogPage`: The page.
-/

namespace DashKit

variable {σ : Type}

/-- A story of the catalog. -/
inductive Story
  | preferences
  | buttons
  | badges
  | chart
  | sidebar
  deriving DecidableEq, Repr

namespace Story

/-- Every story, in order. -/
def all : List Story := [preferences, buttons, badges, chart, sidebar]

/-- The identifier of a story on its page. -/
def id : Story → String
  | preferences => "preferences"
  | buttons => "buttons"
  | badges => "badges"
  | chart => "chart"
  | sidebar => "sidebar"

/-- The title of a story. -/
def title : Story → String
  | preferences => "Preferences"
  | buttons => "Buttons"
  | badges => "Badges"
  | chart => "Chart tokens"
  | sidebar => "Nested sidebar"

/-- What a story shows. -/
def description : Story → String
  | preferences => "Theme, density, and radius pickers."
  | buttons => "Every variant at every size."
  | badges => "Status tones."
  | chart => "Series colors that follow the resolved theme."
  | sidebar => "An independent in-memory sidebar starting collapsed."

end Story

/-- A button of the catalog. An icon button has a star in place of its name. -/
def sampleButton (size : Size) (variant : Variant) : Component σ :=
  button { variant, size } [.text (if size = .icon then "★" else variant.word)]

/-- A row of a story. -/
def storyRow (children : List (Component σ)) : Component σ :=
  boxed "div" "story__row" children

/-- A remark in a story. -/
def storyNote (note : String) : Component σ :=
  boxed "p" "story__note" [.text note]

/-- Buttons of every size and variant. -/
def buttonStory : List (Component σ) :=
  (Size.all.map fun size => storyRow (Variant.all.map (sampleButton size)))
    ++ [storyRow [button { isDisabled := true } [.text "Disabled"]], storyNote "0 clicks"]

/-- Badges of every tone. -/
def badgeStory : List (Component σ) :=
  [storyRow (Tone.all.map fun tone => badge tone tone.word)]

/-- The chart of the catalog. -/
def sampleChart : ChartConfig :=
  (({} : ChartConfig).add "visits" ⟨"Visits", some (.fixed "#f97316")⟩).add "signups"
    ⟨"Signups", some (.themed "#7c3aed" "#c4b5fd")⟩

/-- A chart with two series over a week. -/
def chartStory : List (Component σ) :=
  let days := ["Mon", "Tue", "Wed", "Thu", "Fri"]
  [chartContainer "catalog-chart" sampleChart
    [boxed "div" "chart-bars-group"
      [chartBars "visits" days [12, 19, 7, 24, 15],
       chartBars "signups" days [3, 5, 2, 9, 4]],
     chartLegend sampleChart]]

/-- The options of the sidebar inside the catalog. -/
def nestedOptions : SidebarOptions :=
  { startsOpen := false, shortcutEnabled := false }

/-- A sidebar inside the page. -/
def sidebarStory : List (Component σ) :=
  [boxed "div" "story__frame"
    [.sidebarProvider nestedOptions none Storage.disabled
      [.panel
        [menu [.menuItem "Inbox" "#inbox" "✉", .menuItem "Drafts" "#drafts" "✎"]],
       inset
        [.trigger,
         storyNote "This sidebar keeps its own open state and ignores the keyboard shortcut."]]]]

/-- The components of a story. -/
def Story.body : Story → List (Component σ)
  | preferences => [.switcher, .designNote]
  | buttons => buttonStory
  | badges => badgeStory
  | chart => chartStory
  | sidebar => sidebarStory

/-- A story with its heading. -/
def storySection (story : Story) : Component σ :=
  .element "section" { named := [valued "id" story.id], className := some "card story" }
    [boxed "h2" "card__title" [.text story.title],
     boxed "p" "story__description" [.text story.description],
     boxed "div" "story__body" story.body]

/-- A link to a story. -/
def storyLink (story : Story) : Component σ :=
  .element "a" { named := [valued "href" ("#" ++ story.id)] } [.text story.title]

/-- The page with all stories. -/
def catalogPage : Component σ :=
  boxed "div" "catalog"
    (boxed "h1" "page-title" [.text "Components"]
      :: boxed "nav" "catalog__toc" (Story.all.map storyLink)
      :: Story.all.map storySection)

end DashKit
