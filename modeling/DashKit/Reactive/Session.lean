import DashKit.Reactive.Reader

/-!
# Sessions

The contexts of a running page: where they are provided, who finds them, and
which signals an action notifies.

A page is a tree of owners. A context is provided in an owner and found from
it and everything below it, the nearest one first and the latest within one
owner. Only the path from the current owner up to the root matters for that,
so a session keeps this path. Contexts are handed out by place, and a place
means the same context wherever it was found.

An action on a sidebar either always notifies its signal or does so only if it
changed something. Which of the two it is belongs to the action: setting a
flag always notifies, and so does a toggle, while a resize, a key press and a
synchronisation with the host stay silent when they changed nothing.

## Main definitions

* `Action`: What can be done to a sidebar that was provided.
* `Session`: Contexts and the path of owners.
* `Session.design?`, `Session.sidebar?`, `Session.path?`: Finding a context.
* `Command`, `Session.step`: Everything that can happen in a session.
-/

namespace DashKit

/-- What can be done to a sidebar that was provided. -/
inductive Action
  | setOpen (value : Bool)
  | updateOpen (f : Bool → Bool)
  | setDrawer (value : Bool)
  | toggle
  | resize (width : Float)
  /-- The stored flag is taken over, and the window measured if there is
      one. -/
  | synchronise (width : Option Float)
  | press (chord : Chord)

/-- What an action leaves behind, and whether it notifies. -/
structure Effect (σ : Type) where
  answer : Option Bool
  notifies : Bool
  sidebar : Sidebar
  world : σ

namespace Action

variable {σ : Type} (storage : Storage σ)

/-- The effect of an event that always notifies. -/
def always (turn : Turn σ) : Effect σ :=
  ⟨turn.answer, true, turn.sidebar, turn.world⟩

/-- The effect of an action. -/
def run (action : Action) (sidebar : Sidebar) (world : σ) : Effect σ :=
  match action with
  | setOpen value => always (sidebar.step storage (.setOpen value) world)
  | updateOpen f => always (sidebar.step storage (.updateOpen f) world)
  | setDrawer value => always (sidebar.step storage (.setDrawer value) world)
  | toggle => always (sidebar.step storage .toggle world)
  | resize width =>
      let (changed, after) := sidebar.resize width
      ⟨none, changed, after, world⟩
  -- Both parts are done whatever the first one says.
  | synchronise width =>
      let (restored, after, world) := sidebar.restore storage world
      match width with
      | none => ⟨none, restored, after, world⟩
      | some width =>
          let (resized, after) := after.resize width
          ⟨none, restored || resized, after, world⟩
  | press chord =>
      let turn := sidebar.step storage (.press chord) world
      ⟨turn.answer, turn.answer.getD false, turn.sidebar, turn.world⟩

end Action

/-- A sidebar that was provided, with its storage. -/
structure SidebarContext (σ : Type) where
  sidebar : Sidebar
  storage : Storage σ

/-- The contexts provided in one owner, the latest of each kind. -/
structure Owner where
  design : Option Nat := none
  sidebar : Option Nat := none
  /-- The path of a request, which is no state and has no place. -/
  path : Option String := none
  deriving DecidableEq, Repr

/-- The contexts of a page, and the owners from the current one up to the
    root. -/
structure Session (σ : Type) where
  designs : List (DesignContext σ) := []
  sidebars : List (SidebarContext σ) := []
  owner : Owner := {}
  ancestors : List Owner := []
  world : σ

/-- What can happen in a session. -/
inductive Command (σ : Type)
  /-- A child of the current owner becomes current. -/
  | enter
  /-- The parent of the current owner becomes current. -/
  | leave
  | provideDesign (options : ProviderOptions) (source : SchemeSource σ)
  | provideSidebar (options : SidebarOptions) (storage : Storage σ)
  /-- A person sets an axis of a design. -/
  | choose (place : Nat) (choice : Choice)
  /-- The host tells a design that its preference has changed. -/
  | hostChanged (place : Nat)
  /-- Something is done to a sidebar. -/
  | act (place : Nat) (action : Action)
  /-- The world changes and tells nobody. -/
  | outside (change : σ → σ)

/-- What a command answers, and the signals it notified. -/
structure Reply where
  answer : Option Bool := none
  notified : List Signal := []
  deriving DecidableEq, Repr

namespace Session

variable {σ : Type}

/-- The owners from the current one up to the root. -/
def owners (session : Session σ) : List Owner :=
  session.owner :: session.ancestors

/-- The number of owners up to the root. -/
def depth (session : Session σ) : Nat :=
  session.owners.length

/-- The design that is found from the current owner. -/
def design? (session : Session σ) : Option Nat :=
  session.owners.findSome? Owner.design

/-- The sidebar that is found from the current owner. -/
def sidebar? (session : Session σ) : Option Nat :=
  session.owners.findSome? Owner.sidebar

/-- The path that is found from the current owner. -/
def path? (session : Session σ) : Option String :=
  session.owners.findSome? Owner.path

/-- The name of the provider of designs in a fault. -/
def designProvider : String := "DesignSystemProvider"

/-- The name of the provider of sidebars in a fault. -/
def sidebarProvider : String := "SidebarProvider"

/-- The design that is found from the current owner, or a fault. -/
def requireDesign (session : Session σ) : Except Fault Nat :=
  match session.design? with
  | none => .error (.missingProvider designProvider)
  | some place => .ok place

/-- The sidebar that is found from the current owner, or a fault. -/
def requireSidebar (session : Session σ) : Except Fault Nat :=
  match session.sidebar? with
  | none => .error (.missingProvider sidebarProvider)
  | some place => .ok place

/-- A person sets an axis of a design. Only a change notifies. -/
def choose (session : Session σ) (place : Nat) (choice : Choice) : Reply × Session σ :=
  match session.designs[place]? with
  | none => ({}, session)
  | some context =>
      let (changed, preferences) := context.preferences.choose choice
      ({ notified := if changed then [.design place] else [] },
        { session with designs := session.designs.set place { context with preferences } })

/-- Something is done to a sidebar. -/
def act (session : Session σ) (place : Nat) (action : Action) : Reply × Session σ :=
  match session.sidebars[place]? with
  | none => ({}, session)
  | some context =>
      let effect := action.run context.storage context.sidebar session.world
      ({ answer := effect.answer, notified := if effect.notifies then [.sidebar place] else [] },
        { session with
          sidebars := session.sidebars.set place { context with sidebar := effect.sidebar }
          world := effect.world })

/-- A path is provided in the current owner. -/
def providePath (session : Session σ) (path : String) : Session σ :=
  { session with owner := { session.owner with path := some path } }

/-- A child of the current owner that was left is current again, with what was
    provided in it. -/
def reenter (session : Session σ) (child : Owner) : Session σ :=
  { session with owner := child, ancestors := session.owners }

/-- One command. At the root there is no parent to return to. -/
def step (command : Command σ) (session : Session σ) : Reply × Session σ :=
  match command with
  | .enter => ({}, { session with owner := {}, ancestors := session.owners })
  | .leave =>
      match session.ancestors with
      | [] => ({}, session)
      | parent :: ancestors => ({}, { session with owner := parent, ancestors })
  | .provideDesign options source =>
      ({}, { session with
        designs := session.designs ++ [⟨options.preferences, source⟩]
        owner := { session.owner with design := some session.designs.length } })
  | .provideSidebar options storage =>
      ({}, { session with
        sidebars := session.sidebars ++ [⟨Sidebar.fresh options, storage⟩]
        owner := { session.owner with sidebar := some session.sidebars.length } })
  | .choose place choice => session.choose place choice
  | .hostChanged place => ({ notified := [.host place] }, session)
  | .act place action => session.act place action
  | .outside change => ({}, { session with world := change session.world })

end Session

end DashKit
