import DashKit.Proofs.Sidebar.Memory
import DashKit.Proofs.Sidebar.Run

/-!
# A Sidebar and Its Memory

The flag a sidebar has and the text in its memory never say different things.

A sidebar is settled if restoring it would change nothing: its flag is the one
that its entry spells, or the one it starts with if the entry spells none. An
event that saves writes the word of the flag it leaves, and restoring takes the
flag over, so both settle a sidebar whatever it was before. All other events
leave the flag and the entry alone and therefore keep it settled. That is the
whole argument, `settled_step`, and it needs no case for a malformed entry:
such a text stays where it is until the first event that saves, and as long as
it stands there it spells nothing.

A mounted sidebar was restored when it was built and is settled from the start.
A fresh one is not, because it has not looked at its entry yet; it becomes so
with the first event that reads the entry or writes it.

## Main definitions

* `Sidebar.Settled`: Restoring would change nothing.
* `Sidebar.settles`: An event that reads the entry or writes it.

## Theorems

* `settled_iff`: A settled sidebar has the flag that its entry spells.
* `settled_step`, `settled_run`: Events settle a sidebar or keep it settled.
* `memory_never_diverges`: Every state of a mounted sidebar is settled, and of
  a fresh one every state from the first event that settles it.
-/

namespace DashKit

namespace Sidebar

/-- Restoring would answer that nothing changed, and change nothing. -/
def Settled (sidebar : Sidebar) (entries : Ledger String String) : Prop :=
  sidebar.restore Storage.memory entries = (false, sidebar, entries)

/-- The event reads the sidebar's entry or writes it. -/
def settles (sidebar : Sidebar) : Event → Bool
  | .restore => true
  | event => (sidebar.saves? event).isSome

/-- A settled sidebar has the flag that its entry spells, or the one it starts
    with if the entry spells none. -/
theorem settled_iff {sidebar : Sidebar} {entries : Ledger String String} :
    sidebar.Settled entries ↔
      sidebar.isOpen =
        taken (Ledger.get? storageKey entries) sidebar.options.startsOpen := by
  rw [← storedOpen_eq, Settled, restore]
  -- The answer says whether the flag was another one, and the flag is all that a
  -- restore may change.
  simp only [Storage.memory, Prod.mk.injEq, bne_eq_false_iff_eq, and_true]
  constructor
  · exact fun h => h.1.symm
  · exact fun h => ⟨h.symm, by rw [← h]⟩

/-- The word of a flag is taken over as that flag. -/
theorem taken_word (flag fallback : Bool) : taken (some (Flag.word flag)) fallback = flag := by
  cases flag <;> rfl

/-- An event leaves a sidebar settled if it settles it, or if the sidebar was
    settled before. -/
theorem settled_step {event : Event} {sidebar : Sidebar} {entries : Ledger String String}
    (h : sidebar.settles event = true ∨ sidebar.Settled entries) :
    (sidebar.step Storage.memory event entries).sidebar.Settled
      (sidebar.step Storage.memory event entries).world := by
  rw [settled_iff, step_options, step_isOpen, step_world]
  cases event with
  | restore => exact storedOpen_eq _ _
  -- An event that saves puts its own flag into the entry; one that does not leaves flag
  -- and entry as they were.
  | _ =>
      simp only
      cases hs : sidebar.saves? _ with
      | some flag =>
          simp only [Option.getD_some, Storage.memory, Ledger.get?_put, if_true, taken_word]
      | none =>
          simp only [settles, hs, Option.isSome_none, Bool.false_eq_true, false_or] at h
          exact settled_iff.mp h

/-- A settled sidebar is settled after every run. -/
theorem settled_run (events : List Event) {sidebar : Sidebar} {entries : Ledger String String}
    (h : sidebar.Settled entries) :
    (run Storage.memory events sidebar entries).1.Settled
      (run Storage.memory events sidebar entries).2 := by
  induction events generalizing sidebar entries with
  | nil => exact h
  | cons event events ih => exact ih (settled_step (Or.inr h))

/-- A mounted sidebar has just been restored. -/
theorem settled_mounted (options : SidebarOptions) (width : Option Float)
    (entries : Ledger String String) :
    (mounted Storage.memory options width entries).1.Settled
      (mounted Storage.memory options width entries).2 := by
  rw [settled_iff, mounted_memory]

/-- Over a memory that nobody else writes to, whatever stands in it, a mounted
    sidebar is settled after every run of events: its flag is the one that the
    entry spells exactly, or the one it starts with. The same holds of a fresh
    sidebar after every run in which some event has read the entry or written
    it. -/
theorem memory_never_diverges (options : SidebarOptions) (entries : Ledger String String)
    (events : List Event) :
    (∀ width,
      let start := mounted Storage.memory options width entries
      let now := run Storage.memory events start.1 start.2
      now.1.Settled now.2 ∧
        now.1.isOpen = taken (Ledger.get? storageKey now.2) options.startsOpen) ∧
    ∀ (before after : List Event) (event : Event), events = before ++ event :: after →
      (run Storage.memory before (fresh options) entries).1.settles event = true →
      let now := run Storage.memory events (fresh options) entries
      now.1.Settled now.2 ∧
        now.1.isOpen = taken (Ledger.get? storageKey now.2) options.startsOpen := by
  refine ⟨?_, ?_⟩
  · intro width
    have h := settled_run events (settled_mounted options width entries)
    have hopen := settled_iff.mp h
    -- The flag to start from is that of the options, which no event changes.
    rw [run_options, mounted_memory] at hopen
    rw [mounted_memory] at h ⊢
    exact ⟨h, hopen⟩
  · rintro before after event rfl hsettles
    -- The event settles the sidebar, and what comes behind it keeps it settled.
    have h : (run Storage.memory (before ++ event :: after) (fresh options) entries).1.Settled
        (run Storage.memory (before ++ event :: after) (fresh options) entries).2 := by
      rw [run_append]
      exact settled_run after (settled_step (Or.inl hsettles))
    have hopen := settled_iff.mp h
    rw [run_options] at hopen
    exact ⟨h, hopen⟩

/-- A fresh sidebar starts closed above a malformed entry. Its drawer changes
    nothing about that; the flip behind it is saved, and settles both. -/
theorem memory_never_diverges_malformed :
    let options : SidebarOptions := { startsOpen := false }
    let entries : Ledger String String := [("sidebar_state", "yes")]
    let before : List Event := [.setDrawer true]
    let events : List Event := before ++ .toggle :: [.setDrawer false]
    let now := run Storage.memory events (fresh options) entries
    (run Storage.memory before (fresh options) entries).1.settles .toggle = true ∧
      now.1.Settled now.2 ∧ now.1.isOpen = taken (Ledger.get? storageKey now.2) false ∧
      Ledger.get? storageKey now.2 = some "true" := by
  intro options entries before events now
  have hsettles : (run Storage.memory before (fresh options) entries).1.settles .toggle = true :=
    rfl
  have h := (memory_never_diverges options entries events).2 before [.setDrawer false] .toggle rfl
    hsettles
  exact ⟨hsettles, h.1, h.2, by decide⟩

end Sidebar

end DashKit
