import DashKit.Proofs.Sidebar.Agreement
import DashKit.Proofs.Sidebar.Interleaving

/-!
# A Sidebar Without a Storage

What a visit loses on a host that keeps nothing.

A host whose storage is switched off should forget a sidebar between two visits
and otherwise behave like any other. The host to compare with is one with an
empty memory that the sidebar has for itself: it starts a visit without an
entry as well, and what it knows later it was told during the visit.

The two cannot be told apart as long as the sidebar is not restored, because
nothing else reads a storage. Restoring is where they differ. Over its own
memory a sidebar is settled, so restoring it does nothing. Without a storage
there is no entry, and an entry that is missing is replaced by the flag that the
sidebar starts with, whatever flag was set since. So a flag is undone exactly
by restoring a sidebar that has left the flag it started with, and the two
hosts agree on a visit exactly if that does not happen in it.

## Main definitions

* `Sidebar.RestoredUnset`: A run restores a sidebar only while it has the flag
  it starts with.

## Theorems

* `step_restore_disabled`: Without a storage restoring goes back to the start.
* `Settled.step_restore`: Over its own memory it changes nothing.
* `Settled.step_seen_iff`, `Settled.turns_seen_iff`: The hosts agree on an
  event, and on a run, exactly if no restoring undoes a flag.
* `disabled_agrees_iff`: This for the visits of a mounted sidebar.
* `flag_undone_without_storage`: A visit on which they do not agree.
-/

namespace DashKit

namespace Sidebar

variable {σ : Type}

/-- Whenever a run restores a sidebar, the sidebar has the flag it starts
    with. -/
def RestoredUnset (storage : Storage σ) (events : List Event) (sidebar : Sidebar) (world : σ) :
    Prop :=
  ∀ before after, events = before ++ .restore :: after →
    (run storage before sidebar world).1.isOpen = sidebar.options.startsOpen

/-- Without a storage restoring goes back to the flag that the sidebar starts
    with. -/
theorem step_restore_disabled (sidebar : Sidebar) (world : σ) :
    sidebar.step Storage.disabled .restore world =
      ⟨some (sidebar.options.startsOpen != sidebar.isOpen),
        { sidebar with isOpen := sidebar.options.startsOpen }, world⟩ :=
  rfl

/-- Over its own memory restoring a settled sidebar changes nothing. -/
theorem Settled.step_restore {sidebar : Sidebar} {entries : Ledger String String}
    (h : sidebar.Settled entries) :
    sidebar.step Storage.memory .restore entries = ⟨some false, sidebar, entries⟩ := by
  simp only [step, show sidebar.restore Storage.memory entries = _ from h]

/-- The condition on a run is one on its first event and one on the rest. -/
theorem restoredUnset_cons {storage : Storage σ} {event : Event} {events : List Event}
    {sidebar : Sidebar} {world : σ} :
    RestoredUnset storage (event :: events) sidebar world ↔
      (event = .restore → sidebar.isOpen = sidebar.options.startsOpen) ∧
      RestoredUnset storage events (sidebar.step storage event world).sidebar
        (sidebar.step storage event world).world := by
  constructor
  · intro h
    refine ⟨fun hevent => h [] events (by rw [hevent, List.nil_append]), ?_⟩
    -- A part in front of a restore in the rest is one of the whole run, with one more event.
    rintro before after rfl
    rw [step_options]
    exact h (event :: before) after rfl
  · rintro ⟨hfirst, hrest⟩ before after hsplit
    cases before with
    | nil => exact hfirst (List.cons.inj hsplit).1
    | cons first before =>
        rcases List.cons.inj hsplit with ⟨rfl, hevents⟩
        have h := hrest before after hevents
        rwa [step_options] at h

/-- An event that does not undo a flag leaves the same sidebar on both
    hosts. -/
theorem Settled.step_disabled {event : Event} {sidebar : Sidebar}
    {entries : Ledger String String} (h : sidebar.Settled entries)
    (hunset : event = .restore → sidebar.isOpen = sidebar.options.startsOpen) (world : σ) :
    (sidebar.step Storage.disabled event world).answer =
        (sidebar.step Storage.memory event entries).answer ∧
      (sidebar.step Storage.disabled event world).sidebar =
        (sidebar.step Storage.memory event entries).sidebar := by
  by_cases hevent : event = .restore
  · subst hevent
    rw [step_restore_disabled, h.step_restore, ← hunset rfl, bne_self_eq_false]
    exact ⟨rfl, rfl⟩
  · exact step_congr Storage.disabled Storage.memory sidebar (fun hr => absurd hr hevent)

/-- On a settled sidebar the hosts agree exactly on the events that do not undo
    a flag. -/
theorem Settled.step_seen_iff {event : Event} {sidebar : Sidebar}
    {entries : Ledger String String} (h : sidebar.Settled entries) (world : σ) :
    (sidebar.step Storage.disabled event world).seen =
        (sidebar.step Storage.memory event entries).seen ↔
      (event = .restore → sidebar.isOpen = sidebar.options.startsOpen) := by
  constructor
  · rintro hseen rfl
    rw [step_restore_disabled, h.step_restore] at hseen
    -- What is seen without a storage is the start, and over the memory the flag as it was.
    exact (congrArg (fun seen => seen.2.isOpen) hseen).symm
  · intro hunset
    rcases h.step_disabled hunset world with ⟨hanswer, hsidebar⟩
    rw [Turn.seen, Turn.seen, hanswer, hsidebar]

/-- From a settled sidebar the hosts agree exactly on the runs that undo no
    flag. -/
theorem Settled.turns_seen_iff (events : List Event) {sidebar : Sidebar}
    {entries : Ledger String String} (h : sidebar.Settled entries) (world : σ) :
    (turns Storage.disabled events sidebar world).map (fun turn => turn.2.seen) =
        (turns Storage.memory events sidebar entries).map (fun turn => turn.2.seen) ↔
      RestoredUnset Storage.disabled events sidebar world := by
  induction events generalizing sidebar entries world with
  | nil =>
      simp only [turns, List.map_nil, true_iff]
      intro before after hsplit
      exact absurd hsplit.symm (List.append_ne_nil_of_right_ne_nil _ (List.cons_ne_nil _ _))
  | cons event events ih =>
      rw [restoredUnset_cons, turns, turns, List.map_cons, List.map_cons, List.cons.injEq,
        h.step_seen_iff]
      refine and_congr_right ?_
      intro hunset
      -- Until a flag is undone both hosts have the same sidebar.
      rw [(h.step_disabled hunset world).2]
      exact ih (settled_step (Or.inr h)) _

/-- A visit starts alike without a storage and over an empty memory. After every
    event the sidebar answers and shows the same on both hosts exactly if it is
    never restored while it has another flag than the one it starts with. After
    any events, restoring it without a storage goes back to that flag, and
    restoring it over the memory answers that nothing changed and changes
    nothing. -/
theorem disabled_agrees_iff (options : SidebarOptions) (width : Option Float)
    (events : List Event) (world : σ) :
    let blank := mounted Storage.disabled options width world
    let kept := mounted Storage.memory options width []
    let blankNow := run Storage.disabled events blank.1 blank.2
    let keptNow := run Storage.memory events kept.1 kept.2
    blank.1 = kept.1 ∧
    ((turns Storage.disabled events blank.1 blank.2).map (fun turn => turn.2.seen) =
        (turns Storage.memory events kept.1 kept.2).map (fun turn => turn.2.seen) ↔
      RestoredUnset Storage.disabled events blank.1 blank.2) ∧
    blankNow.1.step Storage.disabled .restore blankNow.2 =
      ⟨some (options.startsOpen != blankNow.1.isOpen),
        { blankNow.1 with isOpen := options.startsOpen }, blankNow.2⟩ ∧
    keptNow.1.step Storage.memory .restore keptNow.2 = ⟨some false, keptNow.1, keptNow.2⟩ := by
  intro blank kept blankNow keptNow
  have hstart : blank.1 = kept.1 := by cases width <;> rfl
  -- A run keeps the options, so the flag it starts with is that of the visit.
  have hoptions : blankNow.1.options = options := by
    refine (run_options Storage.disabled events blank.1 blank.2).trans ?_
    cases width <;> rfl
  have hkept : kept.1.Settled kept.2 := settled_mounted options width []
  refine ⟨hstart, ?_, ?_, (settled_run events hkept).step_restore⟩
  · rw [hstart]
    exact hkept.turns_seen_iff events blank.2
  · rw [← hoptions]
    exact step_restore_disabled blankNow.1 blankNow.2

/-- A sidebar is closed and then restored. Without a storage it is open again,
    and over an empty memory it stays closed. -/
theorem flag_undone_without_storage :
    ¬ ∀ (options : SidebarOptions) (width : Option Float) (events : List Event),
      let blank := mounted Storage.disabled options width ()
      let kept := mounted Storage.memory options width []
      (turns Storage.disabled events blank.1 blank.2).map (fun turn => turn.2.seen) =
        (turns Storage.memory events kept.1 kept.2).map (fun turn => turn.2.seen) := by
  intro h
  -- The last of the two moments shows it: open on one host, closed on the other.
  have hlast := congrArg List.getLast? (h {} none [.setOpen false, .restore])
  exact absurd hlast (by decide)

end Sidebar

end DashKit
