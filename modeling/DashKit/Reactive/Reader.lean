import DashKit.Design.Basic
import DashKit.Sidebar.Basic

/-!
# Readers

What a page reads of its contexts, and which signals each reading depends on.

A context keeps its state in a signal, and whoever read the state through it
is run again when the signal is notified. A design has a second signal for
the host's preference for dark colors, which is no part of its state: only
what shows the scheme depends on it. Two readings of a sidebar concern its
options, which never change, so they depend on nothing.

## Main definitions

* `Signal`: What can be notified.
* `DesignReader`, `SidebarReader`: The readings, with what they read and the
  signals they depend on.
* `DesignReader.woken`, `SidebarReader.woken`: The readings that are run again.
-/

namespace DashKit

/-- What can be notified, by the place of its context. -/
inductive Signal
  /-- The preferences of a design. -/
  | design (place : Nat)
  /-- The host's preference for dark colors, as a design sees it. -/
  | host (place : Nat)
  /-- The state of a sidebar. -/
  | sidebar (place : Nat)
  deriving DecidableEq, Repr

/-- A design that was provided: its preferences and its host. -/
structure DesignContext (σ : Type) where
  preferences : Preferences
  source : SchemeSource σ

/-- A reading of a design. -/
inductive DesignReader
  | preferences
  | theme
  | density
  | radius
  | scheme
  | attributes
  | properties
  deriving DecidableEq, Repr

/-- What a reading of a design gives. -/
inductive DesignReading
  | preferences (value : Preferences)
  | theme (value : Theme)
  | density (value : Density)
  | radius (value : Radius)
  | scheme (value : Scheme)
  | pairs (value : List (String × String))
  deriving DecidableEq, Repr

namespace DesignReader

/-- Every reading of a design. -/
def all : List DesignReader :=
  [preferences, theme, density, radius, scheme, attributes, properties]

/-- The signals that a reading depends on. -/
def tracked (place : Nat) : DesignReader → List Signal
  | scheme => [.host place, .design place]
  | attributes => [.host place, .design place]
  | preferences => [.design place]
  | theme => [.design place]
  | density => [.design place]
  | radius => [.design place]
  | properties => [.design place]

/-- What a reading gives now. The host may be asked for it. -/
def read {σ : Type} (reader : DesignReader) (context : DesignContext σ) (world : σ) :
    DesignReading × σ :=
  match reader with
  | preferences => (.preferences context.preferences, world)
  | theme => (.theme context.preferences.theme, world)
  | density => (.density context.preferences.density, world)
  | radius => (.radius context.preferences.radius, world)
  | scheme =>
      let (value, world) := context.preferences.scheme context.source world
      (.scheme value, world)
  | attributes =>
      let (value, world) := context.preferences.attributes context.source world
      (.pairs value, world)
  | properties => (.pairs context.preferences.properties, world)

/-- The readings that are run again after some signals were notified. -/
def woken (place : Nat) (notified : List Signal) : List DesignReader :=
  all.filter fun reader => (reader.tracked place).any (· ∈ notified)

end DesignReader

/-- A reading of a sidebar. -/
inductive SidebarReader
  | snapshot
  | appearance
  | isOpen
  | drawerOpen
  | isMobile
  | shortcut
  | shortcutEnabled
  deriving DecidableEq, Repr

/-- What a reading of a sidebar gives. -/
inductive SidebarReading
  | snapshot (value : Snapshot)
  | appearance (value : Appearance)
  | flag (value : Bool)
  | shortcut (value : Shortcut)
  deriving DecidableEq, Repr

namespace SidebarReader

/-- Every reading of a sidebar. -/
def all : List SidebarReader :=
  [snapshot, appearance, isOpen, drawerOpen, isMobile, shortcut, shortcutEnabled]

/-- The signals that a reading depends on. -/
def tracked (place : Nat) : SidebarReader → List Signal
  | snapshot => [.sidebar place]
  | appearance => [.sidebar place]
  | isOpen => [.sidebar place]
  | drawerOpen => [.sidebar place]
  | isMobile => [.sidebar place]
  | shortcut => []
  | shortcutEnabled => []

/-- What a reading gives now. -/
def read (reader : SidebarReader) (sidebar : Sidebar) : SidebarReading :=
  match reader with
  | snapshot => .snapshot sidebar.snapshot
  | appearance => .appearance sidebar.appearance
  | isOpen => .flag sidebar.isOpen
  | drawerOpen => .flag sidebar.drawerOpen
  | isMobile => .flag sidebar.isMobile
  | shortcut => .shortcut sidebar.options.shortcut
  | shortcutEnabled => .flag sidebar.options.shortcutEnabled

/-- The readings that are run again after some signals were notified. -/
def woken (place : Nat) (notified : List Signal) : List SidebarReader :=
  all.filter fun reader => (reader.tracked place).any (· ∈ notified)

end SidebarReader

end DashKit
