import DashKit.Proofs.Sidebar.Run

/-!
# Two Axes That Do Not Interfere

The desktop flag and the drawer's flag of a sidebar, each as if the other were
not there.

A toggle and a key press choose between the two, and they choose by a flag that
a resize may change in the middle of a run. So it is not enough that setting
one flag leaves the other alone. What is shown is about two runs: deleting all
events that are for one axis alone from a run leaves the other axis, the flag
that chooses, and the answers of all events that remain as they were.

Both directions have the same proof. A relation between the sidebars of the two
runs says that they agree on everything but the axis in question; an event that
is kept answers the same on both sides and keeps the relation, and one that is
deleted moves only the side that still has it. `turns_filter` carries such a
relation through a run.

Deleting the events of the drawer even leaves every call to the storage where it
was. The other way round nothing can be said about the storage, because the
events that are deleted are the ones that save.

## Main definitions

* `Event.forDrawer`, `Event.forDesktop`: The events for one axis alone.
* `Turn.onDesktop`, `Turn.onDrawer`: What a turn shows of an axis.
* `Sidebar.SameDesktop`, `Sidebar.SameDrawer`: Agreement of two sidebars.

## Theorems

* `turns_filter`: Two runs, one without the events that a relation ignores.
* `SameDesktop.step`, `SameDrawer.step`: An event on sidebars that agree.
* `turns_without_drawer`, `turns_without_desktop`: A run without the events for
  one axis alone.
* `axes_independent`: Each axis without the events of the other.
-/

namespace DashKit

namespace Event

/-- The event is for the drawer alone. -/
def forDrawer : Event → Bool
  | .setDrawer _ => true
  | .updateDrawer _ => true
  | _ => false

/-- The event is for the desktop flag alone. -/
def forDesktop : Event → Bool
  | .setOpen _ => true
  | .updateOpen _ => true
  | .restore => true
  | _ => false

end Event

namespace Turn

variable {σ : Type}

/-- What a turn shows of the desktop: the answer, the two flags and the
    world. -/
def onDesktop (turn : Turn σ) : Option Bool × Bool × Bool × σ :=
  (turn.answer, turn.sidebar.isOpen, turn.sidebar.isMobile, turn.world)

/-- What a turn shows of the drawer: the answer and the two flags. -/
def onDrawer (turn : Turn σ) : Option Bool × Bool × Bool :=
  (turn.answer, turn.sidebar.drawerOpen, turn.sidebar.isMobile)

end Turn

namespace Sidebar

variable {σ : Type} (storage : Storage σ)

/-- Two sidebars that agree on everything but the drawer. -/
structure SameDesktop (one other : Sidebar) : Prop where
  options : one.options = other.options
  isOpen : one.isOpen = other.isOpen
  isMobile : one.isMobile = other.isMobile

/-- Two sidebars that agree on everything but the desktop flag. -/
structure SameDrawer (one other : Sidebar) : Prop where
  options : one.options = other.options
  drawerOpen : one.drawerOpen = other.drawerOpen
  isMobile : one.isMobile = other.isMobile

/-- A relation is carried through a run and the same run without some events,
    if an event that is kept shows the same on both sides, and an event that is
    left out is ignored by it. -/
theorem turns_filter {α : Type} (keeps : Event → Bool) (view : Turn σ → α)
    (Alike : Sidebar → σ → Sidebar → σ → Prop)
    (hkept : ∀ {event one world other world'}, keeps event = true →
      Alike one world other world' →
      view (one.step storage event world) = view (other.step storage event world') ∧
      Alike (one.step storage event world).sidebar (one.step storage event world).world
        (other.step storage event world').sidebar (other.step storage event world').world)
    (hleft : ∀ {event one world other world'}, keeps event = false →
      Alike one world other world' →
      Alike (one.step storage event world).sidebar (one.step storage event world).world
        other world')
    (events : List Event) {one other : Sidebar} {world world' : σ}
    (h : Alike one world other world') :
    ((turns storage events one world).filter fun turn => keeps turn.1).map
        (fun turn => view turn.2) =
      (turns storage (events.filter keeps) other world').map (fun turn => view turn.2) ∧
    Alike (run storage events one world).1 (run storage events one world).2
      (run storage (events.filter keeps) other world').1
      (run storage (events.filter keeps) other world').2 := by
  induction events generalizing one other world world' with
  | nil => exact ⟨rfl, h⟩
  | cons event events ih =>
      -- The run without some events stands still at an event that is left out.
      cases hk : keeps event with
      | true =>
          rcases hkept hk h with ⟨hview, hafter⟩
          rcases ih hafter with ⟨hviews, hlast⟩
          simp only [turns, List.filter_cons, hk, if_true, List.map_cons, hview, hviews, true_and]
          exact hlast
      | false =>
          rcases ih (hleft hk h) with ⟨hviews, hlast⟩
          simp only [turns, List.filter_cons, hk, Bool.false_eq_true, if_false]
          exact ⟨hviews, hlast⟩

namespace SameDesktop

variable {one other : Sidebar}

theorem saves? (h : SameDesktop one other) : one.saves? = other.saves? := by
  funext event
  cases event <;> simp only [Sidebar.saves?, h.options, h.isOpen, h.isMobile]

/-- An event does the same on the desktop whatever the drawer's flag is, and it
    answers the same unless it asks for that flag. -/
theorem step (h : SameDesktop one other) {event : Event} (he : event.forDrawer = false)
    (world : σ) :
    (one.step storage event world).onDesktop = (other.step storage event world).onDesktop ∧
      SameDesktop (one.step storage event world).sidebar
        (other.step storage event world).sidebar := by
  have hopen : (one.step storage event world).sidebar.isOpen =
      (other.step storage event world).sidebar.isOpen := by
    rw [step_isOpen, step_isOpen, h.options, h.isOpen, h.saves?]
  have hmobile : (one.step storage event world).sidebar.isMobile =
      (other.step storage event world).sidebar.isMobile := by
    rw [step_isMobile, step_isMobile, h.options, h.isMobile]
  have hworld : (one.step storage event world).world = (other.step storage event world).world := by
    rw [step_world, step_world, h.saves?]
  -- The answer may ask for the drawer, but then the event is for the drawer.
  have hanswer : (one.step storage event world).answer =
      (other.step storage event world).answer := by
    rw [step_answer, step_answer, h.options, h.isOpen, h.isMobile]
    cases event <;> first | rfl | exact absurd he Bool.true_eq_false.mp
  refine ⟨?_, ?_, hopen, hmobile⟩
  · rw [Turn.onDesktop, Turn.onDesktop, hanswer, hopen, hmobile, hworld]
  · rw [step_options, step_options, h.options]

/-- An event for the drawer alone leaves the desktop and the world as they
    are. -/
theorem step_forDrawer (h : SameDesktop one other) {event : Event} (he : event.forDrawer = true)
    (world : σ) :
    SameDesktop (one.step storage event world).sidebar other ∧
      (one.step storage event world).world = world := by
  cases event with
  | setDrawer value => exact ⟨⟨h.options, h.isOpen, h.isMobile⟩, rfl⟩
  | updateDrawer f => exact ⟨⟨h.options, h.isOpen, h.isMobile⟩, rfl⟩
  -- All other events are for more than the drawer.
  | _ => exact absurd he Bool.false_ne_true

end SameDesktop

namespace SameDrawer

variable {one other : Sidebar}

theorem drawerFlag? (h : SameDrawer one other) : one.drawerFlag? = other.drawerFlag? := by
  funext event
  cases event <;> simp only [Sidebar.drawerFlag?, h.options, h.drawerOpen, h.isMobile]

/-- An event does the same to the drawer whatever the desktop flag and the
    storage are, and it answers the same unless it asks for them. -/
theorem step (h : SameDrawer one other) {event : Event} (he : event.forDesktop = false)
    (world world' : σ) :
    (one.step storage event world).onDrawer = (other.step storage event world').onDrawer ∧
      SameDrawer (one.step storage event world).sidebar
        (other.step storage event world').sidebar := by
  have hdrawer : (one.step storage event world).sidebar.drawerOpen =
      (other.step storage event world').sidebar.drawerOpen := by
    rw [step_drawerOpen, step_drawerOpen, h.drawerOpen, h.drawerFlag?]
  have hmobile : (one.step storage event world).sidebar.isMobile =
      (other.step storage event world').sidebar.isMobile := by
    rw [step_isMobile, step_isMobile, h.options, h.isMobile]
  have hanswer : (one.step storage event world).answer =
      (other.step storage event world').answer := by
    rw [step_answer, step_answer, h.options, h.drawerOpen, h.isMobile]
    -- The answer may ask for the desktop flag, but then the event is for the desktop.
    cases event <;> first | rfl | exact absurd he Bool.true_eq_false.mp
  refine ⟨?_, ?_, hdrawer, hmobile⟩
  · rw [Turn.onDrawer, Turn.onDrawer, hanswer, hdrawer, hmobile]
  · rw [step_options, step_options, h.options]

/-- An event for the desktop alone leaves the drawer as it is. -/
theorem step_forDesktop (h : SameDrawer one other) {event : Event} (he : event.forDesktop = true)
    (world : σ) : SameDrawer (one.step storage event world).sidebar other := by
  cases event with
  | setOpen value => exact ⟨h.options, h.drawerOpen, h.isMobile⟩
  | updateOpen f => exact ⟨h.options, h.drawerOpen, h.isMobile⟩
  | restore => exact ⟨h.options, h.drawerOpen, h.isMobile⟩
  | _ => exact absurd he Bool.false_ne_true

end SameDrawer

/-- Without the events for the drawer alone, a run does to the desktop and to
    the world what it does with them. -/
theorem turns_without_drawer (events : List Event) (sidebar : Sidebar) (world : σ) :
    ((turns storage events sidebar world).filter fun turn => !turn.1.forDrawer).map
        (fun turn => turn.2.onDesktop) =
      (turns storage (events.filter fun event => !event.forDrawer) sidebar world).map
        (fun turn => turn.2.onDesktop) ∧
    SameDesktop (run storage events sidebar world).1
      (run storage (events.filter fun event => !event.forDrawer) sidebar world).1 ∧
    (run storage events sidebar world).2 =
      (run storage (events.filter fun event => !event.forDrawer) sidebar world).2 := by
  -- The worlds have to agree as well, since what is loaded comes from there.
  refine turns_filter storage (fun event => !event.forDrawer) Turn.onDesktop
    (fun one before other after => SameDesktop one other ∧ before = after) ?_ ?_ events
    ⟨⟨rfl, rfl, rfl⟩, rfl⟩
  · rintro event one before other _ hk ⟨hsame, rfl⟩
    rw [Bool.not_eq_true'] at hk
    rcases hsame.step storage hk before with ⟨hview, hafter⟩
    exact ⟨hview, hafter, congrArg (fun view => view.2.2.2) hview⟩
  · rintro event one before other _ hk ⟨hsame, rfl⟩
    rw [Bool.not_eq_false'] at hk
    exact hsame.step_forDrawer storage hk before

/-- Without the events for the desktop alone, a run does to the drawer what it
    does with them, whatever was saved on the way. -/
theorem turns_without_desktop (events : List Event) (sidebar : Sidebar) (world : σ) :
    ((turns storage events sidebar world).filter fun turn => !turn.1.forDesktop).map
        (fun turn => turn.2.onDrawer) =
      (turns storage (events.filter fun event => !event.forDesktop) sidebar world).map
        (fun turn => turn.2.onDrawer) ∧
    SameDrawer (run storage events sidebar world).1
      (run storage (events.filter fun event => !event.forDesktop) sidebar world).1 := by
  -- Nothing is asked of the worlds: the drawer is never stored.
  refine turns_filter storage (fun event => !event.forDesktop) Turn.onDrawer
    (fun one _ other _ => SameDrawer one other) ?_ ?_ events ⟨rfl, rfl, rfl⟩
  · intro event one before other after hk hsame
    rw [Bool.not_eq_true'] at hk
    exact hsame.step storage hk before after
  · intro event one before other after hk hsame
    rw [Bool.not_eq_false'] at hk
    exact hsame.step_forDesktop storage hk before

/-- Take any run of events, over any storage that keeps a record of its calls.
    Without the events for the drawer alone, the desktop flag, the flag that
    says which of the two is drawn, the record, and what every turn that remains
    shows of the desktop are as they were. Without the events for the desktop
    alone, the same holds of the drawer, but for the record. And the flag that
    says which is drawn goes by the last width that was measured, if one was. -/
theorem axes_independent (events : List Event) (sidebar : Sidebar) (world : σ) :
    (let kept := events.filter fun event => !event.forDrawer
      let whole := run storage.recorded events sidebar (world, [])
      let part := run storage.recorded kept sidebar (world, [])
      part.1.isOpen = whole.1.isOpen ∧ part.1.isMobile = whole.1.isMobile ∧
      part.2 = whole.2 ∧
      (turns storage.recorded kept sidebar (world, [])).map (fun turn => turn.2.onDesktop) =
        ((turns storage.recorded events sidebar (world, [])).filter
          fun turn => !turn.1.forDrawer).map fun turn => turn.2.onDesktop) ∧
    (let kept := events.filter fun event => !event.forDesktop
      let whole := run storage events sidebar world
      let part := run storage kept sidebar world
      part.1.drawerOpen = whole.1.drawerOpen ∧ part.1.isMobile = whole.1.isMobile ∧
      (turns storage kept sidebar world).map (fun turn => turn.2.onDrawer) =
        ((turns storage events sidebar world).filter
          fun turn => !turn.1.forDesktop).map fun turn => turn.2.onDrawer) ∧
    (run storage events sidebar world).1.isMobile =
      match (events.filterMap Event.width?).getLast? with
      | some width => isNarrow width sidebar.options.breakpoint
      | none => sidebar.isMobile := by
  refine ⟨?_, ?_, ?_⟩
  · rcases turns_without_drawer storage.recorded events sidebar (world, []) with
      ⟨hviews, hsame, hworld⟩
    exact ⟨hsame.isOpen.symm, hsame.isMobile.symm, hworld.symm, hviews.symm⟩
  · rcases turns_without_desktop storage events sidebar world with ⟨hviews, hsame⟩
    exact ⟨hsame.drawerOpen.symm, hsame.isMobile.symm, hviews.symm⟩
  -- The widths of a run are known from its events, and no other event measures one.
  · rw [run_isMobile]
    cases (events.filterMap Event.width?).getLast? <;> rfl

end Sidebar

end DashKit
