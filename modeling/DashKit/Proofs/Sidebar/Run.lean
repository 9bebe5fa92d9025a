import DashKit.Proofs.Sidebar.Persistence

/-!
# Runs of One Sidebar

What an event does to each part of a sidebar, and what a run of events is.

A sidebar has two axes, the desktop flag and the drawer's, and a third flag
that says which of them is drawn. An event is described here by what it hands
to each part: `saves?` is the flag it hands to the desktop, `drawerFlag?` the
one for the drawer, `Event.width?` the width it measures. There is one equation
for each part of a turn, and together they say all that an event does, so no
later proof has to look into the cases of a toggle or a key press again.

Two of the equations stand apart for the one event that reads: restoring takes
its flag from the storage and not from the sidebar.

Some properties of a run depend on what there was just before each of its
events, such as which flag was drawn when a key was pressed. A `Moment` is an
event together with that, and `moments` lists those of a run.

## Main definitions

* `Event.width?`, `Sidebar.drawerFlag?`: What an event hands to a part.
* `Sidebar.run`: What a run of events leaves.
* `Sidebar.turns`: The events of a run with their turns.
* `Moment`, `Sidebar.moments`: The events of a run with what was before them.
* `Moment.flips`: The event flips the flag that is drawn.

## Theorems

* `step_press`: A key press that is heard is a flip.
* `step_options`, `step_isOpen`, `step_drawerOpen`, `step_isMobile`: What an
  event leaves in each part.
* `step_answer`, `step_world`: What it answers, and what it does to the world.
* `run_append`: A run in two parts.
* `run_options`, `run_isMobile`: The options stay, and the last width decides.
* `Moment.sidebar_of_flips`: A flip changes one flag and nothing else.
-/

namespace DashKit

/-- The width that an event measures, if it measures one. -/
def Event.width? : Event → Option Float
  | .resize width => some width
  | _ => none

namespace Sidebar

/-- The flag that an event hands to the drawer, if it hands it one. -/
def drawerFlag? (sidebar : Sidebar) : Event → Option Bool
  | .setDrawer value => some value
  | .updateDrawer f => some (f sidebar.drawerOpen)
  | .toggle => if sidebar.isMobile then some (!sidebar.drawerOpen) else none
  | .press chord =>
      if hears sidebar.options chord && sidebar.isMobile then some (!sidebar.drawerOpen) else none
  | .setOpen _ => none
  | .updateOpen _ => none
  | .resize _ => none
  | .restore => none

variable {σ : Type} (storage : Storage σ)

/-- A flip changes the flag that is drawn, saves it on the desktop, and does
    nothing else. -/
theorem toggle_eq (sidebar : Sidebar) (world : σ) :
    sidebar.toggle storage world =
      if sidebar.isMobile then ({ sidebar with drawerOpen := !sidebar.drawerOpen }, world)
      else ({ sidebar with isOpen := !sidebar.isOpen },
        storage.save storageKey (Flag.word (!sidebar.isOpen)) world) :=
  rfl

/-- A key press that is heard is a flip with an answer, and any other is
    nothing. -/
theorem step_press (chord : Chord) (sidebar : Sidebar) (world : σ) :
    sidebar.step storage (.press chord) world =
      if hears sidebar.options chord then
        { sidebar.step storage .toggle world with answer := some true }
      else ⟨some false, sidebar, world⟩ :=
  rfl

theorem saves?_press (chord : Chord) (sidebar : Sidebar) :
    sidebar.saves? (.press chord) =
      if hears sidebar.options chord then sidebar.saves? .toggle else none := by
  simp only [saves?]
  -- A chord that is not heard saves nothing, on either screen.
  cases hears sidebar.options chord <;> cases sidebar.isMobile <;> rfl

theorem drawerFlag?_press (chord : Chord) (sidebar : Sidebar) :
    sidebar.drawerFlag? (.press chord) =
      if hears sidebar.options chord then sidebar.drawerFlag? .toggle else none := by
  simp only [drawerFlag?]
  cases hears sidebar.options chord <;> cases sidebar.isMobile <;> rfl

/-- No event touches the options. -/
theorem step_options (event : Event) (sidebar : Sidebar) (world : σ) :
    (sidebar.step storage event world).sidebar.options = sidebar.options := by
  have htoggle : (sidebar.toggle storage world).1.options = sidebar.options := by
    rw [toggle_eq]
    split <;> rfl
  cases event with
  | toggle => exact htoggle
  -- A key press is a flip or nothing, and here and below it goes back to the flip.
  | press chord =>
      rw [step_press]
      split
      · exact htoggle
      · rfl
  | _ => rfl

/-- The desktop flag is the one that an event saves, or the stored one. -/
theorem step_isOpen (event : Event) (sidebar : Sidebar) (world : σ) :
    (sidebar.step storage event world).sidebar.isOpen =
      match event with
      | .restore => storedOpen sidebar.options (storage.load storageKey world).1
      | event => (sidebar.saves? event).getD sidebar.isOpen := by
  -- On a narrow screen a flip saves nothing and leaves the desktop flag alone.
  have htoggle : (sidebar.toggle storage world).1.isOpen =
      (sidebar.saves? .toggle).getD sidebar.isOpen := by
    rw [toggle_eq, saves?]
    split <;> rfl
  cases event with
  | toggle => exact htoggle
  | press chord =>
      simp only [step_press, saves?_press]
      split
      · exact htoggle
      · rfl
  | _ => rfl

/-- The drawer's flag is the one that an event hands to it. -/
theorem step_drawerOpen (event : Event) (sidebar : Sidebar) (world : σ) :
    (sidebar.step storage event world).sidebar.drawerOpen =
      (sidebar.drawerFlag? event).getD sidebar.drawerOpen := by
  -- On the desktop a flip hands nothing to the drawer.
  have htoggle : (sidebar.toggle storage world).1.drawerOpen =
      (sidebar.drawerFlag? .toggle).getD sidebar.drawerOpen := by
    rw [toggle_eq, drawerFlag?]
    split <;> rfl
  cases event with
  | toggle => exact htoggle
  | press chord =>
      rw [step_press, drawerFlag?_press]
      split
      · exact htoggle
      · rfl
  | _ => rfl

/-- Which flag is drawn depends on the width that an event measures. -/
theorem step_isMobile (event : Event) (sidebar : Sidebar) (world : σ) :
    (sidebar.step storage event world).sidebar.isMobile =
      (event.width?.map fun width => isNarrow width sidebar.options.breakpoint).getD
        sidebar.isMobile := by
  have htoggle : (sidebar.toggle storage world).1.isMobile = sidebar.isMobile := by
    rw [toggle_eq]
    split <;> rfl
  cases event with
  | toggle => exact htoggle
  | press chord =>
      rw [step_press]
      split
      · exact htoggle
      · rfl
  | _ => rfl

/-- Functional updates answer with the flag they were given, a key press with
    whether it was heard, and the others with whether they changed anything. -/
theorem step_answer (event : Event) (sidebar : Sidebar) (world : σ) :
    (sidebar.step storage event world).answer =
      match event with
      | .updateOpen _ => some sidebar.isOpen
      | .updateDrawer _ => some sidebar.drawerOpen
      | .resize width => some (isNarrow width sidebar.options.breakpoint != sidebar.isMobile)
      | .press chord => some (hears sidebar.options chord)
      | .restore =>
          some (storedOpen sidebar.options (storage.load storageKey world).1 != sidebar.isOpen)
      | _ => none := by
  cases event with
  | press chord =>
      -- Whether it is heard is also the answer.
      simp only [step_press]
      cases hears sidebar.options chord <;> rfl
  | _ => rfl

/-- The world is loaded from, or saved to, or left alone. -/
theorem step_world (event : Event) (sidebar : Sidebar) (world : σ) :
    (sidebar.step storage event world).world =
      match event with
      | .restore => (storage.load storageKey world).2
      | event =>
          match sidebar.saves? event with
          | some flag => storage.save storageKey (Flag.word flag) world
          | none => world := by
  have htoggle : (sidebar.toggle storage world).2 =
      match sidebar.saves? .toggle with
      | some flag => storage.save storageKey (Flag.word flag) world
      | none => world := by
    rw [toggle_eq, saves?]
    split <;> rfl
  cases event with
  | toggle => exact htoggle
  | press chord =>
      simp only [step_press, saves?_press]
      split
      · exact htoggle
      · rfl
  | _ => rfl

/-- The sidebar and the world after some events, one after the other. -/
def run : List Event → Sidebar → σ → Sidebar × σ
  | [], sidebar, world => (sidebar, world)
  | event :: events, sidebar, world =>
      let turn := sidebar.step storage event world
      run events turn.sidebar turn.world

/-- The events of a run, each with its turn. -/
def turns : List Event → Sidebar → σ → List (Event × Turn σ)
  | [], _, _ => []
  | event :: events, sidebar, world =>
      let turn := sidebar.step storage event world
      (event, turn) :: turns events turn.sidebar turn.world

theorem run_append (before after : List Event) (sidebar : Sidebar) (world : σ) :
    run storage (before ++ after) sidebar world =
      run storage after (run storage before sidebar world).1
        (run storage before sidebar world).2 := by
  induction before generalizing sidebar world with
  | nil => rfl
  | cons event before ih => exact ih _ _

theorem run_options (events : List Event) (sidebar : Sidebar) (world : σ) :
    (run storage events sidebar world).1.options = sidebar.options := by
  induction events generalizing sidebar world with
  | nil => rfl
  | cons event events ih => exact (ih _ _).trans (step_options storage event sidebar world)

/-- The last width that was measured decides which flag is drawn. -/
theorem run_isMobile (events : List Event) (sidebar : Sidebar) (world : σ) :
    (run storage events sidebar world).1.isMobile =
      ((events.filterMap Event.width?).getLast?.map fun width =>
        isNarrow width sidebar.options.breakpoint).getD sidebar.isMobile := by
  induction events generalizing sidebar world with
  | nil => rfl
  | cons event events ih =>
      rw [run, ih, step_options, step_isMobile]
      -- A width that is measured here counts only if none is measured later.
      cases hw : event.width? with
      | none => rw [List.filterMap_cons_none hw, Option.map_none, Option.getD_none]
      | some width =>
          rw [List.filterMap_cons_some hw, List.getLast?_cons]
          cases (events.filterMap Event.width?).getLast? <;> rfl

end Sidebar

/-! ### Moments -/

/-- An event of a run, with the sidebar and the world before it. -/
structure Moment (σ : Type) where
  event : Event
  before : Sidebar
  world : σ

namespace Moment

variable {σ : Type} (storage : Storage σ)

/-- The turn that the event makes. -/
def turn (moment : Moment σ) : Turn σ :=
  moment.before.step storage moment.event moment.world

/-- The event is a flip: a toggle, or a key press that is heard. -/
def flips (moment : Moment σ) : Bool :=
  match moment.event with
  | .toggle => true
  | .press chord => Sidebar.hears moment.before.options chord
  | _ => false

/-- A flip changes the flag that is drawn, and nothing else of the sidebar. -/
theorem sidebar_of_flips {moment : Moment σ} (h : moment.flips = true) :
    (moment.turn storage).sidebar =
      if moment.before.isMobile then
        { moment.before with drawerOpen := !moment.before.drawerOpen }
      else { moment.before with isOpen := !moment.before.isOpen } := by
  rcases moment with ⟨event, before, world⟩
  have htoggle := congrArg Prod.fst (Sidebar.toggle_eq storage before world)
  rw [apply_ite Prod.fst] at htoggle
  cases event with
  | toggle => exact htoggle
  | press chord =>
      -- For a key press to be a flip, it has to be heard.
      have hheard : Sidebar.hears before.options chord = true := h
      rw [turn, Sidebar.step_press, if_pos hheard]
      exact htoggle
  | _ => exact absurd h Bool.false_ne_true

end Moment

/-- The events of a run, each with what was before it. -/
def Sidebar.moments {σ : Type} (storage : Storage σ) :
    List Event → Sidebar → σ → List (Moment σ)
  | [], _, _ => []
  | event :: events, sidebar, world =>
      let turn := sidebar.step storage event world
      ⟨event, sidebar, world⟩ :: moments storage events turn.sidebar turn.world

namespace Sidebar

variable {σ : Type} (storage : Storage σ)

/-- A run has a moment for each of its events, in order. -/
theorem map_event_moments (events : List Event) (sidebar : Sidebar) (world : σ) :
    (moments storage events sidebar world).map Moment.event = events := by
  induction events generalizing sidebar world with
  | nil => rfl
  | cons event events ih => rw [moments, List.map_cons, ih]

/-- No moment of a run has other options than its start. -/
theorem options_of_mem_moments {events : List Event} {sidebar : Sidebar} {world : σ}
    {moment : Moment σ} (h : moment ∈ moments storage events sidebar world) :
    moment.before.options = sidebar.options := by
  induction events generalizing sidebar world with
  | nil => exact absurd h List.not_mem_nil
  | cons event events ih =>
      -- The moment is the first of the run, or one of the rest, whose start has the same options.
      rcases List.mem_cons.mp h with rfl | h
      · rfl
      · exact (ih h).trans (step_options storage event sidebar world)

end Sidebar

end DashKit
