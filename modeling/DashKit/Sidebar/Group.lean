import DashKit.Sidebar.Basic

/-!
# Sidebars Sharing a Storage

Several sidebars over one storage, as on a page with more than one provider.

Each has its own options and flags. What they have in common is the key they
keep their flag under, so a sidebar that is mounted later starts from what
another one saved last. Others may write to the storage as well.

## Main definitions

* `Start`: How a sidebar comes to be.
* `Group`: Sidebars over one world.
* `Move`: An event of one of them, or a change of the group.
* `Group.step`: One move.
-/

namespace DashKit

/-- How a sidebar comes to be. -/
structure Start where
  options : SidebarOptions := {}
  /-- Restored and measured at once. -/
  isMounted : Bool := true
  /-- The width of the window, if there is one. -/
  width : Option Float := none

/-- Sidebars over one world. -/
structure Group (σ : Type) where
  sidebars : List Sidebar
  world : σ

/-- What can happen to a group. -/
inductive Move
  /-- A new sidebar. -/
  | build (start : Start)
  /-- A sidebar is replaced by a new one. -/
  | rebuild (place : Nat) (start : Start)
  /-- A sidebar is copied. -/
  | copy (place : Nat)
  /-- Something happens to a sidebar. -/
  | act (place : Nat) (event : Event)
  /-- Someone else writes to the storage. -/
  | write (key value : String)

namespace Group

variable {σ : Type} (storage : Storage σ)

/-- The sidebar of a start, and the world it leaves. -/
def begin (start : Start) (world : σ) : Sidebar × σ :=
  if start.isMounted then Sidebar.mounted storage start.options start.width world
  else (Sidebar.fresh start.options, world)

/-- One move, with the answer of an event. A place where no sidebar stands is
    left alone. -/
def step (move : Move) (group : Group σ) : Option Bool × Group σ :=
  match move with
  | .build start =>
      let (sidebar, world) := begin storage start group.world
      (none, ⟨group.sidebars ++ [sidebar], world⟩)
  | .rebuild place start =>
      let (sidebar, world) := begin storage start group.world
      (none, ⟨group.sidebars.set place sidebar, world⟩)
  | .copy place =>
      match group.sidebars[place]? with
      | none => (none, group)
      | some sidebar => (none, { group with sidebars := group.sidebars ++ [sidebar] })
  | .act place event =>
      match group.sidebars[place]? with
      | none => (none, group)
      | some sidebar =>
          let turn := sidebar.step storage event group.world
          (turn.answer, ⟨group.sidebars.set place turn.sidebar, turn.world⟩)
  | .write key value => (none, { group with world := storage.save key value group.world })

end Group

end DashKit
