import DashKit.Address.Pathname
import DashKit.Page.Html
import DashKit.Reactive.Session

/-!
# Components

Trees of components, and the page that a server writes for them.

A component stands for some markup, and some components stand in a context:
a design, a sidebar or a router provides what others find. Nobody hands a
context down the tree. It is provided in the owner that is current while its
provider is set up, and it is found from the owner that is current while
something is looked for, the latest one of a kind within one owner. A provider
has no owner of its own. So what it provides is found by everything that is set
up after it in the same owner, whether that stands inside of it or not. Only a
scope has an owner of its own, and on the pages of the kit a scope is what a
route makes around its page. On a server a sidebar that is provided starts
fresh, so neither its storage nor a window is ever looked at. Effects and event
handlers do not run there at all.

A tree is worked on in two rounds. In the first every component is set up,
from the outside in and in document order; it looks for its contexts then, and
the first that finds none ends the page. In the second it reads them and is
written. The children of a panel wait for the second round with both of
theirs, because whether they go into a panel or into a drawer is not decided
before. `Staged` is the result of the first round that still contains the
second, and the owner of a scope, which was left in the first round, is current
again for its subtree in the second.

## Main definitions

* `Component`: The tree.
* `Misplaced`: Why a component could not be set up.
* `Build`: Work on the contexts of a page.
* `Staged`: Work in two rounds.
* `Component.build`: The rounds of a tree.
* `Component.page`, `Component.render`: The page of a tree, as nodes and as
  text.
-/

namespace DashKit

/-- A component could not be set up where it stands. -/
inductive Misplaced
  /-- There is no provider around it. -/
  | noProvider (fault : Fault)
  /-- There is no router around it. -/
  | noRouter
  /-- It is a router, and the request cannot be read as an address. -/
  | noAddress (fault : AddressFault)
  deriving DecidableEq, Repr

/-- What the page ends with. -/
def Misplaced.message : Misplaced → String
  | noProvider fault => fault.message
  | noRouter => "Tried to access Location outside a <Router>."
  | noAddress fault => "could not parse RequestUrl: " ++ fault.word

/-- A tree of components over worlds of type `σ`. -/
inductive Component (σ : Type)
  | text (content : String)
  /-- Text that is written as it stands. -/
  | verbatim (content : String)
  | element (tag : String) (attributes : Attributes) (children : List (Component σ))
  | void (tag : String) (attributes : Attributes)
  /-- Components in an owner of their own. -/
  | scope (children : List (Component σ))
  /-- Provides a design. -/
  | design (options : ProviderOptions) (source : SchemeSource σ) (children : List (Component σ))
  /-- Provides a sidebar that starts fresh, with an element around its children. -/
  | sidebarProvider (options : SidebarOptions) (startsOpen : Option Bool) (storage : Storage σ)
      (children : List (Component σ))
  /-- Provides a sidebar that had some actions done to it. -/
  | sidebarContext (options : SidebarOptions) (storage : Storage σ) (actions : List Action)
      (children : List (Component σ))
  /-- Provides the path of a request. -/
  | router (request : String) (children : List (Component σ))
  /-- A panel beside the page, or a drawer over it. -/
  | panel (children : List (Component σ))
  /-- A button that toggles the sidebar. -/
  | trigger
  /-- A thin edge that toggles the sidebar. -/
  | rail
  /-- An entry of a menu. -/
  | menuItem (label href icon : String)
  /-- A choice for each axis of the design. -/
  | switcher
  /-- A sentence with the members of the design. -/
  | designNote

/-- Work on the contexts of a page that a misplaced component ends. -/
abbrev Build (σ : Type) := StateT (Session σ) (Except Misplaced)

namespace Build

variable {σ α : Type}

/-- A command, whatever it answers. -/
def command (command : Command σ) : Build σ Unit :=
  modify fun session => (session.step command).2

/-- What a session has, or the end of the page. -/
def need (found : Session σ → Option α) (misplaced : Misplaced) : Build σ α := fun session =>
  match found session with
  | none => .error misplaced
  | some a => .ok (a, session)

/-- There is no design around a component. -/
def noDesign : Misplaced := .noProvider (.missingProvider Session.designProvider)

/-- There is no sidebar around a component. -/
def noSidebar : Misplaced := .noProvider (.missingProvider Session.sidebarProvider)

/-- The sidebar at a place, read now. -/
def readSidebar (place : Nat) : Build σ Sidebar :=
  need (fun session => session.sidebars[place]?.map SidebarContext.sidebar) noSidebar

/-- The design at a place, and the scheme that is drawn now. -/
def readDesign (place : Nat) : Build σ (Preferences × Scheme) := do
  let context ← need (fun session => session.designs[place]?) noDesign
  let session ← get
  let (scheme, world) := context.preferences.scheme context.source session.world
  set { session with world }
  return (context.preferences, scheme)

/-- Something is done to the sidebar that is found. -/
def act (action : Action) : Build σ Unit := do
  let place ← need Session.sidebar? noSidebar
  command (.act place action)

/-- The path of a request is provided, when the request is an address. -/
def provideRequest (request : String) : Build σ Unit := fun session =>
  match pathname request with
  | .error fault => .error (.noAddress fault)
  | .ok path => .ok ((), session.providePath path)

end Build

/-- Work in two rounds: the first gives the second. -/
def Staged (σ α : Type) := Build σ (Build σ α)

namespace Staged

variable {σ α β γ : Type}

/-- Nothing to do in either round. -/
def done (a : α) : Staged σ α :=
  (pure (pure a) : Build σ (Build σ α))

/-- Something is looked for in the first round, and read in the second. -/
def found (look : Build σ α) (read : α → Build σ β) : Staged σ β :=
  (do return read (← look) : Build σ (Build σ β))

/-- A function of a result. -/
def map (f : α → β) (work : Staged σ α) : Staged σ β :=
  (do
    let second ← (work : Build σ (Build σ α))
    return f <$> second : Build σ (Build σ β))

/-- Two works one after the other in each round. -/
def both (f : α → β → γ) (one : Staged σ α) (other : Staged σ β) : Staged σ γ :=
  (do
    let second ← (one : Build σ (Build σ α))
    let third ← (other : Build σ (Build σ β))
    return do
      let a ← second
      let b ← third
      return f a b : Build σ (Build σ γ))

/-- The second round right after the first. -/
def run (work : Staged σ α) : Build σ α :=
  (do
    let second ← (work : Build σ (Build σ α))
    second : Build σ α)

/-- Both rounds kept for the second. -/
def later (work : Staged σ α) : Staged σ α :=
  (pure work.run : Build σ (Build σ α))

/-- Work after something was provided in the current owner. -/
def after (provide : Build σ Unit) (work : Staged σ α) : Staged σ α :=
  (do
    provide
    (work : Build σ (Build σ α)) : Build σ (Build σ α))

/-- Work in an owner of its own. The owner is left between the rounds and
    current again in the second, with what was provided in it. -/
def owned (work : Staged σ α) : Staged σ α :=
  (do
    Build.command .enter
    let second ← (work : Build σ (Build σ α))
    let inside ← get
    Build.command .leave
    return do
      modify fun session => session.reenter inside.owner
      let a ← second
      Build.command .leave
      return a : Build σ (Build σ α))

/-- The sidebar that a component finds. -/
def sidebar : Staged σ Sidebar :=
  .found (.need Session.sidebar? Build.noSidebar) Build.readSidebar

/-- The design that a component finds. -/
def design : Staged σ (Preferences × Scheme) :=
  .found (.need Session.design? Build.noDesign) Build.readDesign

/-- The path of the request that a component finds. -/
def path : Staged σ String :=
  .found (.need Session.path? .noRouter) pure

end Staged

/-- An attribute with a value. -/
def valued (name value : String) : String × Option String := (name, some value)

/-- The attributes of an element that has a class and nothing else. -/
def classed (className : String) : Attributes := { className := some className }

/-- What the markup around a sidebar says about it. -/
def wrapperAttributes (sidebar : Sidebar) : Attributes where
  named :=
    [valued "data-state" sidebar.appearance.word,
     valued "data-mobile" (Flag.word sidebar.isMobile)]
  className := some "sidebar-wrapper"

/-- The markup around a sidebar. -/
def wrapperHtml (sidebar : Sidebar) (children : List Html) : Html :=
  .element "div" (wrapperAttributes sidebar) children

/-- The panel of a sidebar on the desktop. -/
def panelHtml (sidebar : Sidebar) (children : List Html) : Html :=
  .element "aside"
    { named := [valued "data-state" sidebar.appearance.word], className := some "sidebar" }
    [.element "div" (classed "sidebar__inner") children]

/-- The drawer of a sidebar on a narrow screen. -/
def drawerHtml (sidebar : Sidebar) (children : List Html) : Html :=
  .element "div"
    { named := [valued "data-open" (Flag.word sidebar.drawerOpen)]
      className := some "sidebar-drawer" }
    [.element "div" (classed "sidebar-drawer__backdrop") [],
     .element "aside"
       { named := [valued "role" "dialog", valued "aria-modal" "true", valued "tabindex" "-1"]
         className := some "sidebar-drawer__panel" }
       children]

/-- The panel or the drawer of a sidebar, never both. -/
def sidebarHtml (sidebar : Sidebar) (children : List Html) : Html :=
  if sidebar.isMobile then drawerHtml sidebar children else panelHtml sidebar children

/-- What a person is told about the button that toggles a sidebar. -/
def triggerTitle (options : SidebarOptions) : String :=
  if options.shortcutEnabled then "Toggle sidebar (" ++ options.shortcut.caption ++ ")"
  else "Toggle sidebar"

/-- The button that toggles a sidebar. -/
def triggerHtml (sidebar : Sidebar) : Html :=
  .element "button"
    { named := [valued "aria-label" "Toggle Sidebar", valued "title" (triggerTitle sidebar.options)]
      className := some "sidebar-trigger" }
    [.text "☰"]

/-- The thin edge that toggles a sidebar. -/
def railHtml : Html :=
  .element "button"
    { named := [valued "aria-label" "Toggle Sidebar", valued "tabindex" "-1",
        valued "title" "Toggle Sidebar"]
      className := some "sidebar-rail" }
    []

/-- The labels of a menu are hidden, because its sidebar is collapsed on the
    desktop. -/
def labelsHidden (sidebar : Sidebar) : Bool :=
  !sidebar.isMobile && !sidebar.isOpen

/-- An entry of a menu. It is active on the page it leads to, and a label that
    is hidden is shown as a title instead. -/
def menuItemHtml (sidebar : Sidebar) (path label href icon : String) : Html :=
  let title := if labelsHidden sidebar then [valued "title" label] else []
  let mark := if labelsHidden sidebar then " sidebar-menu__label--hidden" else ""
  .element "li" (classed "sidebar-menu__item")
    [.element "a"
      { named := [valued "href" href, valued "data-active" (Flag.word (path == href))] ++ title
        className := some "sidebar-menu__button" }
      [.element "span"
        { named := [valued "aria-hidden" "true"], className := some "sidebar-menu__icon" }
        [.text icon],
       .element "span" (classed ("sidebar-menu__label" ++ mark)) [.text label]]]

/-- A choice among the members of an axis. -/
def axisChoice (α : Type) [Axis α] (caption : String) : Html :=
  .element "label" (classed "theme-switcher__field")
    [.element "span" {} [.text caption],
     .element "select" {} ((Axis.members : List α).map fun a =>
       .element "option" { named := [valued "value" (Axis.word a)] } [.text (Axis.word a)])]

/-- A choice for each axis, and the scheme that is drawn. -/
def switcherHtml (scheme : Scheme) : Html :=
  .element "div" (classed "theme-switcher")
    [axisChoice Theme "Theme", axisChoice Density "Density", axisChoice Radius "Radius",
     .element "span"
       { named := [valued "title" "Resolved theme"], className := some "theme-switcher__resolved" }
       [.text scheme.word]]

/-- A sentence with the members of a design and the scheme that is drawn. -/
def designNoteHtml (p : Preferences) (scheme : Scheme) : Html :=
  .element "p" (classed "story__note")
    [.text (p.theme.word ++ " / " ++ p.density.word ++ " / " ++ p.radius.word
      ++ " (resolved " ++ scheme.word ++ ")")]

namespace Component

variable {σ : Type}

/-- The options of a provider that may be told on its own whether to start
    open. -/
def effectiveOptions (options : SidebarOptions) (startsOpen : Option Bool) : SidebarOptions :=
  { options with startsOpen := startsOpen.getD options.startsOpen }

mutual

/-- The two rounds of a component. -/
def build : Component σ → Staged σ (List Html)
  | text content => .done [.text content]
  | verbatim content => .done [.verbatim content]
  | element tag attributes children =>
      (buildAll children).map fun nodes => [.element tag attributes nodes]
  | void tag attributes => .done [.void tag attributes]
  | scope children => (buildAll children).owned
  | design options source children =>
      .after (Build.command (.provideDesign options source)) (buildAll children)
  -- Nothing is done to the sidebar: what its storage holds must not show on
  -- the first page.
  | sidebarProvider options startsOpen storage children =>
      .after (Build.command (.provideSidebar (effectiveOptions options startsOpen) storage))
        (.both (fun sidebar nodes => [wrapperHtml sidebar nodes]) .sidebar (buildAll children))
  | sidebarContext options storage actions children =>
      .after
        (do
          Build.command (.provideSidebar options storage)
          actions.forM Build.act)
        (buildAll children)
  | router request children => .after (Build.provideRequest request) (buildAll children)
  -- Its sidebar is looked for at once, its children are set up later.
  | panel children =>
      .both (fun sidebar nodes => [sidebarHtml sidebar nodes]) .sidebar (buildAll children).later
  | trigger => Staged.sidebar.map fun sidebar => [triggerHtml sidebar]
  | rail => Staged.sidebar.map fun _ => [railHtml]
  | menuItem label href icon =>
      .both (fun sidebar path => [menuItemHtml sidebar path label href icon]) .sidebar .path
  | switcher => Staged.design.map fun design => [switcherHtml design.2]
  | designNote => Staged.design.map fun design => [designNoteHtml design.1 design.2]

/-- The two rounds of components, one after another in each. -/
def buildAll : List (Component σ) → Staged σ (List Html)
  | [] => .done []
  | component :: components => .both (· ++ ·) (build component) (buildAll components)

end

/-- The nodes of a page, and the world it leaves. -/
def page (components : List (Component σ)) (world : σ) : Except Misplaced (List Html × σ) :=
  match (buildAll components).run { world } with
  | .error misplaced => .error misplaced
  | .ok (nodes, session) => .ok (nodes, session.world)

/-- The text of a page, and the world it leaves. -/
def render (components : List (Component σ)) (world : σ) : Except Misplaced (String × σ) :=
  match page components world with
  | .error misplaced => .error misplaced
  | .ok (nodes, world) => .ok (Html.writeAll nodes, world)

end Component

end DashKit
