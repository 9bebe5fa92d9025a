import DashKit.Options
import DashKit.Storage

/-!
# Sidebars

The state of one sidebar, and what happens to it.

A sidebar has two flags of its own. On the desktop it is open or collapsed, on
a narrow screen it is a drawer that is open or shut. Which of the two a toggle
flips, and which one is drawn, is decided by a third flag that follows the
width of the window.

Only the desktop flag outlives a visit. It is saved whenever it is set, also
when that changes nothing, and read back only when the sidebar is restored;
restoring never saves. The storage is a parameter of every operation, so that
a sidebar is the same value over any of them.

A sidebar that is drawn on a server starts `fresh`: from its options alone, so
that server and browser draw the same first frame. One that is mounted in a
browser starts `mounted`, restored and measured.

## Main definitions

* `Sidebar`: Options and flags.
* `Sidebar.fresh`, `Sidebar.mounted`: The two ways to start.
* `Event`: What can happen to a sidebar.
* `Sidebar.step`: One event.
* `Snapshot`, `Appearance`: What is drawn.
-/

namespace DashKit

/-- How a sidebar looks on the desktop. -/
inductive Appearance
  | expanded
  | collapsed
  deriving DecidableEq, Repr

namespace Appearance

/-- The text form of an appearance. -/
def word : Appearance → String
  | expanded => "expanded"
  | collapsed => "collapsed"

/-- The look of a sidebar that is or is not open. -/
def ofOpen (isOpen : Bool) : Appearance :=
  if isOpen then expanded else collapsed

end Appearance

/-- The flags of a sidebar at one moment. -/
structure Snapshot where
  isOpen : Bool
  drawerOpen : Bool
  isMobile : Bool
  deriving DecidableEq, Repr

namespace Snapshot

/-- How the sidebar looks on the desktop. -/
def appearance (snapshot : Snapshot) : Appearance :=
  .ofOpen snapshot.isOpen

/-- The diagnostic form of a snapshot. -/
def describe (snapshot : Snapshot) : String :=
  "SidebarState \x7b open: " ++ toString snapshot.isOpen
    ++ ", open_mobile: " ++ toString snapshot.drawerOpen
    ++ ", is_mobile: " ++ toString snapshot.isMobile ++ " \x7d"

end Snapshot

/-- A window of this width is narrow. A width that is no number is not. -/
def isNarrow (width : Float) (breakpoint : UInt32) : Bool :=
  width < Float.ofNat breakpoint.toNat

/-- The state of one sidebar. -/
structure Sidebar where
  options : SidebarOptions
  isOpen : Bool
  drawerOpen : Bool
  isMobile : Bool
  deriving DecidableEq, Repr

/-- What can happen to a sidebar. -/
inductive Event
  /-- The desktop flag is set. -/
  | setOpen (value : Bool)
  /-- The desktop flag is set to a function of itself. -/
  | updateOpen (f : Bool → Bool)
  /-- The drawer's flag is set. -/
  | setDrawer (value : Bool)
  /-- The drawer's flag is set to a function of itself. -/
  | updateDrawer (f : Bool → Bool)
  /-- The flag that is drawn is flipped. -/
  | toggle
  /-- The window has a new width. -/
  | resize (width : Float)
  /-- A key was pressed. -/
  | press (chord : Chord)
  /-- The desktop flag is read back from the storage. -/
  | restore

/-- What an event leaves behind: its answer if it has one, the sidebar, and
    the world of the storage. -/
structure Turn (σ : Type) where
  answer : Option Bool
  sidebar : Sidebar
  world : σ

namespace Sidebar

/-- A sidebar at its options, on the desktop. -/
def fresh (options : SidebarOptions) : Sidebar where
  options := options
  isOpen := options.startsOpen
  drawerOpen := false
  isMobile := false

/-- The flags at this moment. -/
def snapshot (sidebar : Sidebar) : Snapshot where
  isOpen := sidebar.isOpen
  drawerOpen := sidebar.drawerOpen
  isMobile := sidebar.isMobile

/-- How the sidebar looks on the desktop. -/
def appearance (sidebar : Sidebar) : Appearance :=
  sidebar.snapshot.appearance

/-- The diagnostic form of a sidebar. Its storage is left out. -/
def describe (sidebar : Sidebar) : String :=
  "SidebarController \x7b options: " ++ sidebar.options.describe
    ++ ", state: " ++ sidebar.snapshot.describe ++ ", .. \x7d"

/-- The key a sidebar keeps its flag under. -/
def storageKey : String := Cookie.sidebarName

/-- The flag a sidebar would take over from its storage: the stored one if it
    is spelled exactly, else the one it starts with. -/
def storedOpen (options : SidebarOptions) (found : Option String) : Bool :=
  (found.bind Flag.parse?).getD options.startsOpen

variable {σ : Type} (storage : Storage σ)

/-- Takes the desktop flag over from the storage. The answer is whether that
    changed it. -/
def restore (sidebar : Sidebar) (world : σ) : Bool × Sidebar × σ :=
  let (found, world) := storage.load storageKey world
  let isOpen := storedOpen sidebar.options found
  (isOpen != sidebar.isOpen, { sidebar with isOpen }, world)

/-- Takes a new width. The answer is whether the sidebar became or ceased to
    be mobile. -/
def resize (sidebar : Sidebar) (width : Float) : Bool × Sidebar :=
  let isMobile := isNarrow width sidebar.options.breakpoint
  (isMobile != sidebar.isMobile, { sidebar with isMobile })

/-- Sets the desktop flag and saves it. -/
def setOpen (sidebar : Sidebar) (isOpen : Bool) (world : σ) : Sidebar × σ :=
  ({ sidebar with isOpen }, storage.save storageKey (Flag.word isOpen) world)

/-- Sets the drawer's flag. -/
def setDrawer (sidebar : Sidebar) (drawerOpen : Bool) : Sidebar :=
  { sidebar with drawerOpen }

/-- Flips the flag that is drawn. -/
def toggle (sidebar : Sidebar) (world : σ) : Sidebar × σ :=
  if sidebar.isMobile then (sidebar.setDrawer (!sidebar.drawerOpen), world)
  else sidebar.setOpen storage (!sidebar.isOpen) world

/-- The chord is the sidebar's, and the sidebar listens to it. -/
def hears (options : SidebarOptions) (chord : Chord) : Bool :=
  options.shortcutEnabled && options.shortcut.fires chord

/-- One event. Functional updates answer with the flag they were given, and
    events that may leave everything as it was with whether they did not. -/
def step (event : Event) (sidebar : Sidebar) (world : σ) : Turn σ :=
  match event with
  | .setOpen value =>
      let (after, world) := sidebar.setOpen storage value world
      ⟨none, after, world⟩
  | .updateOpen f =>
      let (after, world) := sidebar.setOpen storage (f sidebar.isOpen) world
      ⟨some sidebar.isOpen, after, world⟩
  | .setDrawer value => ⟨none, sidebar.setDrawer value, world⟩
  | .updateDrawer f => ⟨some sidebar.drawerOpen, sidebar.setDrawer (f sidebar.drawerOpen), world⟩
  | .toggle =>
      let (after, world) := sidebar.toggle storage world
      ⟨none, after, world⟩
  | .resize width =>
      let (changed, after) := sidebar.resize width
      ⟨some changed, after, world⟩
  | .press chord =>
      if hears sidebar.options chord then
        let (after, world) := sidebar.toggle storage world
        ⟨some true, after, world⟩
      else ⟨some false, sidebar, world⟩
  | .restore =>
      let (changed, after, world) := sidebar.restore storage world
      ⟨some changed, after, world⟩

/-- A sidebar restored from its storage and measured, if there is a window to
    measure. -/
def mounted (options : SidebarOptions) (width : Option Float) (world : σ) : Sidebar × σ :=
  let (_, sidebar, world) := (fresh options).restore storage world
  match width with
  | none => (sidebar, world)
  | some width => ((sidebar.resize width).2, world)

end Sidebar

end DashKit
