import DashKit.Proofs.Sidebar.Decoding

/-!
# The Calls a Sidebar Makes

Every call that a sidebar makes to its storage, in order.

A storage with a side effect of its own, such as a cookie that is written anew
or an entry that someone else watches, is told apart by the calls it receives
and not by what it holds afterwards. So the calls themselves are listed here.
Which of them an event makes depends on the options, on the chord that was
pressed and on the flag that says what is drawn, and the last of these is set
by widths that were measured before; `Moment.calls` therefore looks at the
event together with what was there when it came.

`run_recorded` compares this with a storage that keeps a record. The record
grows by the calls of the moments and by nothing else, and the sidebar and the
world inside do not notice that one is kept, so the calls are those of the
storage itself.

What is saved is the flag that the event leaves on the desktop. It could still
carry something over from the drawer. `Event.written` computes it from the event
and from the desktop flag before it, which leaves no room for that.

## Main definitions

* `Moment.sets`: The event sets the desktop flag.
* `Event.written`: The flag that such an event leaves.
* `Moment.calls`, `Start.firstCalls`: The calls of an event, and of a start.

## Theorems

* `Moment.saves?_eq`, `Moment.isOpen_of_sets`: What is saved is the flag that was
  set.
* `step_recorded`, `run_recorded`: An event and a run over a record.
* `saved_calls_moments`: What a run saves.
* `calls_traced`: The calls of every run, and of a visit from its start on.
-/

namespace DashKit

/-- The flag that an event that sets the desktop flag leaves there, by the flag
    before it. -/
def Event.written : Event → Bool → Bool
  | .setOpen value, _ => value
  | .updateOpen f, isOpen => f isOpen
  | _, isOpen => !isOpen

namespace Moment

variable {σ : Type} (storage : Storage σ)

/-- The event sets the desktop flag, perhaps to what it was: by a value, by a
    function, or by a flip while the sidebar is drawn on the desktop. -/
def sets (moment : Moment σ) : Bool :=
  match moment.event with
  | .setOpen _ => true
  | .updateOpen _ => true
  | _ => moment.flips && !moment.before.isMobile

/-- The calls that the event makes: restoring loads, and an event that sets the
    desktop flag saves the flag that is there after it. -/
def calls (moment : Moment σ) : List Call :=
  match moment.event with
  | .restore => [.load Sidebar.storageKey (storage.load Sidebar.storageKey moment.world).1]
  | _ =>
      if moment.sets then
        [.save Sidebar.storageKey (Flag.word (moment.turn storage).sidebar.isOpen)]
      else []

/-- What an event saves goes by the event and the desktop flag before it. -/
theorem saves?_eq (moment : Moment σ) :
    moment.before.saves? moment.event =
      if moment.sets then some (moment.event.written moment.before.isOpen) else none := by
  rcases moment with ⟨event, before, world⟩
  cases event with
  | toggle =>
      simp only [Sidebar.saves?, sets, flips, Bool.true_and]
      cases before.isMobile <;> rfl
  | _ => rfl

/-- What is saved is the flag that is there after the event. -/
theorem isOpen_of_sets {moment : Moment σ} (h : moment.sets = true) :
    (moment.turn storage).sidebar.isOpen = moment.event.written moment.before.isOpen := by
  -- What is left on the desktop is what was saved, or the flag as it was.
  have hsaves := moment.saves?_eq
  rw [if_pos h] at hsaves
  have hopen := Sidebar.step_isOpen storage moment.event moment.before moment.world
  -- Restoring sets the flag as well, but not to one of its own.
  cases he : moment.event with
  | restore =>
      rw [sets, flips, he] at h
      exact absurd h Bool.false_ne_true
  | _ =>
      rw [he] at hsaves hopen
      rw [turn, he]
      exact hopen.trans (congrArg (·.getD moment.before.isOpen) hsaves)

end Moment

namespace Sidebar

variable {σ : Type} (storage : Storage σ)

/-- An event leaves what it leaves without a record, and its calls in the
    record. -/
theorem step_recorded (moment : Moment σ) (log : List Call) :
    moment.before.step storage.recorded moment.event (moment.world, log) =
      { answer := (moment.turn storage).answer
        sidebar := (moment.turn storage).sidebar
        world := ((moment.turn storage).world, log ++ moment.calls storage) } := by
  -- Only the world knows of the record; what the sidebar becomes depends on what is loaded.
  have hworld : (moment.before.step storage.recorded moment.event (moment.world, log)).world =
      ((moment.turn storage).world, log ++ moment.calls storage) := by
    have hsaves := moment.saves?_eq
    have hopen := moment.isOpen_of_sets storage
    rw [Moment.turn, step_world, step_world, Moment.calls]
    cases he : moment.event with
    | restore => rfl
    | _ =>
        simp only [he] at hsaves hopen ⊢
        rw [hsaves]
        cases hs : moment.sets with
        | true => simp only [if_true, hopen hs, Storage.recorded]
        | false => simp only [Bool.false_eq_true, if_false, List.append_nil]
  -- The record hands on what the storage loads.
  have hload : moment.event = .restore →
      (storage.recorded.load storageKey (moment.world, log)).1.bind Flag.parse? =
        (storage.load storageKey moment.world).1.bind Flag.parse? := fun _ => rfl
  rcases step_congr storage.recorded storage moment.before hload with ⟨hanswer, hsidebar⟩
  rw [Moment.turn, ← hanswer, ← hsidebar, ← Moment.turn, ← hworld]

/-- A run leaves what it leaves without a record, and the calls of its moments in
    the record. -/
theorem run_recorded (events : List Event) (sidebar : Sidebar) (world : σ) (log : List Call) :
    run storage.recorded events sidebar (world, log) =
      ((run storage events sidebar world).1, (run storage events sidebar world).2,
        log ++ (moments storage events sidebar world).flatMap (Moment.calls storage)) := by
  induction events generalizing sidebar world log with
  | nil => simp only [run, moments, List.flatMap_nil, List.append_nil]
  | cons event events ih =>
      have hstep := step_recorded storage ⟨event, sidebar, world⟩ log
      rw [run, hstep, ih, moments, List.flatMap_cons, ← List.append_assoc]
      rfl

/-- Restoring saves nothing, and an event that sets the desktop flag saves what it
    sets it to. -/
theorem saved_calls (moment : Moment σ) :
    Call.saved (moment.calls storage) =
      if moment.sets then
        [(storageKey, Flag.word (moment.event.written moment.before.isOpen))]
      else [] := by
  have hopen := moment.isOpen_of_sets storage
  rw [Moment.calls]
  -- A restore loads and so saves nothing. For any other event the calls are the one save.
  cases he : moment.event with
  | restore =>
      rw [Moment.sets, Moment.flips, he]
      rfl
  | _ =>
      rw [he] at hopen
      simp only
      cases hs : moment.sets with
      | true =>
          rw [if_pos rfl, if_pos rfl, hopen hs]
          rfl
      | false => rfl

/-- What a run saves are the flags that its events set, in order. -/
theorem saved_calls_moments (moments : List (Moment σ)) :
    Call.saved (moments.flatMap (Moment.calls storage)) =
      (moments.filter Moment.sets).map fun moment =>
        (storageKey, Flag.word (moment.event.written moment.before.isOpen)) := by
  induction moments with
  | nil => rfl
  | cons moment moments ih =>
      have happend : Call.saved ((moment :: moments).flatMap (Moment.calls storage)) =
          Call.saved (moment.calls storage) ++
            Call.saved (moments.flatMap (Moment.calls storage)) :=
        List.filterMap_append
      rw [happend, saved_calls, ih, List.filter_cons]
      split <;> rfl

end Sidebar

namespace Start

variable {σ : Type} (storage : Storage σ)

/-- The calls that a new sidebar makes: one load if it is mounted. -/
def firstCalls (start : Start) (world : σ) : List Call :=
  if start.isMounted then
    [.load Sidebar.storageKey (storage.load Sidebar.storageKey world).1]
  else []

/-- A new sidebar is the one without a record, and its calls are in the record. -/
theorem begin_recorded (start : Start) (world : σ) :
    Group.begin storage.recorded start (world, []) =
      ((Group.begin storage start world).1, (Group.begin storage start world).2,
        start.firstCalls storage world) := by
  rcases start with ⟨options, isMounted, width⟩
  cases isMounted with
  | false => rfl
  | true => cases width <;> rfl

end Start

namespace Sidebar

variable {σ : Type} (storage : Storage σ)

/-- Whatever sidebar a run starts from, and over any storage: a record of the
    calls is extended by those of the moments of the run, which has one for each
    of its events, and otherwise it makes no difference that there is a record.
    Restoring never saves, and what is saved is computed from events and desktop
    flags alone. A sidebar that is new makes one more load in front if it is
    mounted, and else no call. -/
theorem calls_traced (events : List Event) :
    (∀ (sidebar : Sidebar) (world : σ) (log : List Call),
      let moments := moments storage events sidebar world
      let plain := run storage events sidebar world
      run storage.recorded events sidebar (world, log) =
          (plain.1, plain.2, log ++ moments.flatMap (Moment.calls storage)) ∧
        moments.map Moment.event = events ∧
        (∀ moment ∈ moments, moment.event = .restore →
          Call.saved (moment.calls storage) = []) ∧
        Call.saved (moments.flatMap (Moment.calls storage)) =
          (moments.filter Moment.sets).map fun moment =>
            (storageKey, Flag.word (moment.event.written moment.before.isOpen))) ∧
    ∀ (start : Start) (world : σ),
      let begun := Group.begin storage start world
      start.calls storage events world =
        start.firstCalls storage world ++
          (moments storage events begun.1 begun.2).flatMap (Moment.calls storage) := by
  refine ⟨fun sidebar world log => ⟨run_recorded storage events sidebar world log,
    map_event_moments storage events sidebar world, ?_, saved_calls_moments storage _⟩, ?_⟩
  · intro moment _ hrestore
    rw [Moment.calls, hrestore]
    rfl
  · intro start world
    rw [Start.calls, Start.begin_recorded, run_recorded]

/-- A sidebar that is drawn as a drawer is flipped and restored, and its desktop
    flag is set to what it is. -/
example : (run Storage.memory.recorded [.toggle, .restore, .setOpen true]
      { Sidebar.fresh {} with isMobile := true } ([("sidebar_state", "TRUE")], [])).2.2 =
    [.load "sidebar_state" (some "TRUE"), .save "sidebar_state" "true"] := by
  decide

end Sidebar

end DashKit
