import DashKit.Sidebar.Group

/-!
# What Sidebars Save

Which events of a sidebar reach its storage, and with which flag.

An event that sets the desktop flag saves it, and so does a flip while the
sidebar is on the desktop; a flip of the drawer does not, and restoring only
loads. `saves?` says this without running the event, and `step_cases` compares
it with what the event does to the flag and to the world of the storage. Both
hold over any storage, so nothing is assumed about what a load answers.

For a group of sidebars the same is said of a move: `persisted?` is the flag
that a move saves, and `persisted` lists the flags that a run of moves saves,
in order. Moves of a stranger who writes to the storage are told apart by
`isOwn`.

## Main definitions

* `Sidebar.saves?`: The flag that an event saves.
* `Move.isOwn`: A move of the group, and not of a stranger.
* `Group.run`: A run of moves.
* `Group.persisted?`, `Group.persisted`: The flags that moves save.

## Theorems

* `step_cases`: An event saves the flag it leaves, loads, or does neither.
* `begin_world`: A new sidebar loads, or leaves the storage alone.
* `step_world`: A move of the group saves the flag of its event, loads, or does
  neither.
-/

namespace DashKit

namespace Sidebar

/-- The flag that an event saves, if it saves one. -/
def saves? (sidebar : Sidebar) : Event → Option Bool
  | .setOpen value => some value
  | .updateOpen f => some (f sidebar.isOpen)
  | .toggle => if sidebar.isMobile then none else some (!sidebar.isOpen)
  | .press chord =>
      if hears sidebar.options chord && !sidebar.isMobile then some (!sidebar.isOpen) else none
  | .setDrawer _ => none
  | .updateDrawer _ => none
  | .resize _ => none
  | .restore => none

variable {σ : Type}

/-- A flip saves the flag it leaves on the desktop, and nothing on a narrow
    screen. -/
theorem toggle_cases (storage : Storage σ) (sidebar : Sidebar) (world : σ) :
    (sidebar.isMobile = false ∧ (sidebar.toggle storage world).1.isOpen = !sidebar.isOpen ∧
      (sidebar.toggle storage world).2 =
        storage.save storageKey (Flag.word (!sidebar.isOpen)) world) ∨
    (sidebar.isMobile = true ∧ (sidebar.toggle storage world).1.isOpen = sidebar.isOpen ∧
      (sidebar.toggle storage world).2 = world) := by
  unfold toggle
  -- Which flag is flipped depends on the screen, and only one of them is stored.
  by_cases hm : sidebar.isMobile = true
  · rw [if_pos hm]
    exact Or.inr ⟨hm, rfl, rfl⟩
  · rw [if_neg hm]
    exact Or.inl ⟨Bool.eq_false_iff.mpr hm, rfl, rfl⟩

/-- An event saves the flag that it leaves, or loads, or does not reach the
    storage and leaves the flag as it was. -/
theorem step_cases (storage : Storage σ) (event : Event) (sidebar : Sidebar) (world : σ) :
    (∃ flag, sidebar.saves? event = some flag ∧
      (sidebar.step storage event world).sidebar.isOpen = flag ∧
      (sidebar.step storage event world).world =
        storage.save storageKey (Flag.word flag) world) ∨
    (sidebar.saves? event = none ∧
      (sidebar.step storage event world).world = (storage.load storageKey world).2) ∨
    (sidebar.saves? event = none ∧
      (sidebar.step storage event world).sidebar.isOpen = sidebar.isOpen ∧
      (sidebar.step storage event world).world = world) := by
  cases event with
  | setOpen value => exact Or.inl ⟨value, rfl, rfl, rfl⟩
  | updateOpen f => exact Or.inl ⟨f sidebar.isOpen, rfl, rfl, rfl⟩
  | setDrawer value => exact Or.inr (Or.inr ⟨rfl, rfl, rfl⟩)
  | updateDrawer f => exact Or.inr (Or.inr ⟨rfl, rfl, rfl⟩)
  | resize width => exact Or.inr (Or.inr ⟨rfl, rfl, rfl⟩)
  | restore => exact Or.inr (Or.inl ⟨rfl, rfl⟩)
  | toggle =>
      rcases toggle_cases storage sidebar world with ⟨hm, ho, hw⟩ | ⟨hm, ho, hw⟩
      · exact Or.inl ⟨_, by simp only [saves?, hm, Bool.false_eq_true, if_false], ho, hw⟩
      · exact Or.inr (Or.inr ⟨by simp only [saves?, hm, if_true], ho, hw⟩)
  | press chord =>
      simp only [step]
      by_cases hh : hears sidebar.options chord = true
      · rw [if_pos hh]
        rcases toggle_cases storage sidebar world with ⟨hm, ho, hw⟩ | ⟨hm, ho, hw⟩
        · exact Or.inl ⟨_, by simp only [saves?, hh, hm, Bool.not_false, Bool.and_true, if_true],
            ho, hw⟩
        · exact Or.inr (Or.inr ⟨by simp only [saves?, hm, Bool.not_true, Bool.and_false,
            Bool.false_eq_true, if_false], ho, hw⟩)
      · -- A chord that is not the sidebar's changes nothing.
        rw [if_neg hh]
        exact Or.inr (Or.inr ⟨by simp only [saves?, hh, Bool.false_and, Bool.false_eq_true,
          if_false], rfl, rfl⟩)

end Sidebar

/-- A move of the group itself, and not a stranger's write to the storage. -/
def Move.isOwn : Move → Bool
  | .write _ _ => false
  | _ => true

namespace Group

variable {σ : Type} (storage : Storage σ)

/-- The moves of a run, one after the other. -/
def run (moves : List Move) (group : Group σ) : Group σ :=
  moves.foldl (fun group move => (group.step storage move).2) group

/-- The flag that a move saves, if it is an event that saves one. -/
def persisted? (move : Move) (group : Group σ) : Option Bool :=
  match move with
  | .act place event => group.sidebars[place]?.bind fun sidebar => sidebar.saves? event
  | _ => none

/-- The flags that the moves of a run save, in order. -/
def persisted : List Move → Group σ → List Bool
  | [], _ => []
  | move :: moves, group =>
      (persisted? move group).toList ++ persisted moves (group.step storage move).2

/-- A new sidebar loads once if it is restored, and else does not reach the
    storage. -/
theorem begin_world (start : Start) (world : σ) :
    (begin storage start world).2 = (storage.load Sidebar.storageKey world).2 ∨
      (begin storage start world).2 = world := by
  unfold begin
  -- A mounted sidebar is restored once; a width that is measured behind it reaches no storage.
  by_cases hm : start.isMounted = true
  · rw [if_pos hm]
    refine Or.inl ?_
    cases hw : start.width <;> simp only [Sidebar.mounted, Sidebar.restore]
  · rw [if_neg hm]
    exact Or.inr rfl

/-- A move of the group saves the flag of its event, or loads, or does not
    reach the storage. -/
theorem step_world {move : Move} (hown : move.isOwn = true) (group : Group σ) :
    (∃ flag, persisted? move group = some flag ∧
      (step storage move group).2.world =
        storage.save Sidebar.storageKey (Flag.word flag) group.world) ∨
    (persisted? move group = none ∧
      ((step storage move group).2.world = (storage.load Sidebar.storageKey group.world).2 ∨
        (step storage move group).2.world = group.world)) := by
  cases move with
  | build start => exact Or.inr ⟨rfl, begin_world storage start group.world⟩
  | rebuild place start => exact Or.inr ⟨rfl, begin_world storage start group.world⟩
  | write key value => simp only [Move.isOwn, Bool.false_eq_true] at hown
  -- A copy takes a sidebar over as it is.
  | copy place =>
      refine Or.inr ⟨rfl, Or.inr ?_⟩
      simp only [step]
      split <;> rfl
  | act place event =>
      simp only [step, persisted?]
      cases hs : group.sidebars[place]? with
      | none => exact Or.inr ⟨rfl, Or.inr rfl⟩
      | some sidebar =>
          rcases Sidebar.step_cases storage event sidebar group.world with
            ⟨flag, hf, _, hw⟩ | ⟨hf, hw⟩ | ⟨hf, _, hw⟩
          · exact Or.inl ⟨flag, hf, hw⟩
          · exact Or.inr ⟨hf, Or.inl hw⟩
          · exact Or.inr ⟨hf, Or.inr hw⟩

end Group

end DashKit
