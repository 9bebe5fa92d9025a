import DashKit.Proofs.Sidebar.Persistence

/-!
# Sidebars Over One Memory

What a table in memory holds after sidebars and strangers wrote to it.

All sidebars keep their flag under the same key, so the entry there is shared,
and strangers may write any text to it as well. `writes` lists the texts that
are written under the key over a run: those of strangers as they are, and the
words of the flags that events save. The entry is the last of them, or what
was there before the run.

A table answers a load without being changed by it, which is what separates
this storage from one in general: a move that saves nothing leaves every entry
alone. A sidebar that is mounted finds the entry as the run left it and takes
it over if it is spelled exactly.

## Main definitions

* `Group.written?`, `Group.writes`: The texts that are written under the key.
* `Sidebar.taken`: The flag that is taken over from an entry.

## Theorems

* `get?_step_memory`: A move leaves its text under the key.
* `get?_step_memory_other`: It leaves the other entries of the table alone.
* `get?_run_memory`: After a run the entry is the last text written.
* `isOpen_step_act`: The flag that is saved is the one the sidebar then has.
* `mounted_memory`: A mounted sidebar starts from the entry.
* `shared_entry`: These facts at every point of a run.
-/

namespace DashKit

/-- The flag that is taken over from an entry: the one it spells exactly, or
    the one to fall back to. -/
def Sidebar.taken (entry : Option String) (fallback : Bool) : Bool :=
  if entry = some "true" then true else if entry = some "false" then false else fallback

theorem storedOpen_eq (options : SidebarOptions) (entry : Option String) :
    Sidebar.storedOpen options entry = Sidebar.taken entry options.startsOpen := by
  unfold Sidebar.storedOpen Sidebar.taken
  cases entry with
  | none => simp only [Option.bind_none, Option.getD_none, reduceCtorEq, ↓reduceIte]
  | some text =>
      simp only [Option.bind_some, Flag.parse?, Option.some.injEq]
      -- Two spellings are taken over, and everything else is as if nothing was there.
      by_cases ht : text = "true"
      · rw [if_pos ht, if_pos ht, Option.getD_some]
      · rw [if_neg ht, if_neg ht]
        by_cases hf : text = "false"
        · rw [if_pos hf, if_pos hf, Option.getD_some]
        · rw [if_neg hf, if_neg hf, Option.getD_none]

/-- A sidebar that is mounted starts from the entry and the width, and leaves
    the table as it is. -/
theorem mounted_memory (options : SidebarOptions) (width : Option Float)
    (entries : Ledger String String) :
    Sidebar.mounted Storage.memory options width entries =
      ({ options
         isOpen := Sidebar.taken (Ledger.get? Sidebar.storageKey entries) options.startsOpen
         drawerOpen := false
         isMobile := width.any fun w => isNarrow w options.breakpoint }, entries) := by
  rw [← storedOpen_eq]
  -- Only the width is not known beforehand.
  cases width <;>
    simp only [Sidebar.mounted, Sidebar.restore, Sidebar.fresh, Sidebar.resize, Storage.memory,
      Option.any_none, Option.any_some]

namespace Group

/-- The text that a move writes under the sidebars' key, if it writes one. -/
def written? {σ : Type} (move : Move) (group : Group σ) : Option String :=
  match move with
  | .write key value => if key = Sidebar.storageKey then some value else none
  | move => (persisted? move group).map Flag.word

/-- The texts that the moves of a run write under the sidebars' key, in
    order. -/
def writes {σ : Type} (storage : Storage σ) : List Move → Group σ → List String
  | [], _ => []
  | move :: moves, group =>
      (written? move group).toList ++ writes storage moves (step storage move group).2

theorem written?_of_isOwn {σ : Type} {move : Move} (hown : move.isOwn = true) (group : Group σ) :
    written? move group = (persisted? move group).map Flag.word := by
  cases move with
  | write key value => simp only [Move.isOwn, Bool.false_eq_true] at hown
  | _ => rfl

/-- A move of the group puts the text it writes under the key and touches
    nothing else. -/
theorem step_memory {move : Move} (hown : move.isOwn = true)
    (group : Group (Ledger String String)) :
    (step Storage.memory move group).2.world =
      match written? move group with
      | none => group.world
      | some text => Ledger.put Sidebar.storageKey text group.world := by
  rw [written?_of_isOwn hown]
  rcases step_world Storage.memory hown group with ⟨flag, hp, hw⟩ | ⟨hp, hw⟩
  -- The move saves a flag, or it saves nothing and the world stays.
  · rw [hp, hw]
    rfl
  · rw [hp]
    rcases hw with hw | hw
    · rw [hw]
      rfl
    · rw [hw]
      rfl

/-- After a move the entry under the key is the text it wrote, or the one that
    was there. -/
theorem get?_step_memory (move : Move) (group : Group (Ledger String String)) :
    Ledger.get? Sidebar.storageKey (step Storage.memory move group).2.world =
      (written? move group).or (Ledger.get? Sidebar.storageKey group.world) := by
  -- A stranger writes where it likes, a move of the group only under the key.
  by_cases hown : move.isOwn = true
  · rw [step_memory hown]
    cases written? move group with
    | none => rw [Option.none_or]
    | some text => simp only [Ledger.get?_put, if_true, Option.some_or]
  · cases move with
    | write key value =>
        simp only [step, Storage.memory, Ledger.get?_put, written?]
        by_cases hk : key = Sidebar.storageKey
        · rw [if_pos hk, if_pos hk, Option.some_or]
        · rw [if_neg hk, if_neg hk, Option.none_or]
    | _ => exact absurd rfl hown

/-- A move of the group leaves every other entry of the table alone. -/
theorem get?_step_memory_other {move : Move} (hown : move.isOwn = true)
    (group : Group (Ledger String String)) {key : String} (hk : key ≠ Sidebar.storageKey) :
    Ledger.get? key (step Storage.memory move group).2.world = Ledger.get? key group.world := by
  rw [step_memory hown]
  cases written? move group with
  | none => rfl
  | some text => simp only [Ledger.get?_put, if_neg (Ne.symm hk)]

/-- After a run the entry under the key is the last text written to it, or the
    one that was there before. -/
theorem get?_run_memory (moves : List Move) (group : Group (Ledger String String)) :
    Ledger.get? Sidebar.storageKey (run Storage.memory moves group).world =
      (writes Storage.memory moves group).getLast?.or
        (Ledger.get? Sidebar.storageKey group.world) := by
  induction moves generalizing group with
  | nil => rfl
  | cons move moves ih =>
      -- The last text of all moves is that of the later ones, if they write any.
      have hrest := ih (step Storage.memory move group).2
      rw [get?_step_memory] at hrest
      rw [writes, List.getLast?_append, Option.or_assoc]
      refine hrest.trans (congrArg _ (congrArg (fun text => Option.or text _) ?_))
      cases written? move group <;> rfl

/-- The flag that an event saves is the one its sidebar has afterwards. -/
theorem isOpen_step_act {σ : Type} (storage : Storage σ) {group : Group σ} {place : Nat}
    {event : Event} {sidebar : Sidebar} {flag : Bool} (hs : group.sidebars[place]? = some sidebar)
    (hf : sidebar.saves? event = some flag) :
    ∃ after, (step storage (.act place event) group).2.sidebars[place]? = some after ∧
      after.isOpen = flag := by
  refine ⟨(sidebar.step storage event group.world).sidebar, ?_, ?_⟩
  · rcases List.getElem?_eq_some_iff.mp hs with ⟨hlt, _⟩
    simp only [step, hs]
    rw [List.getElem?_set_self hlt]
  -- Of the three things that a step can do, only the first saves.
  · rcases Sidebar.step_cases storage event sidebar group.world with
      ⟨saved, hsaved, ho, _⟩ | ⟨hnone, _⟩ | ⟨hnone, _⟩
    · rw [hf, Option.some.injEq] at hsaved
      rw [ho, hsaved]
    · rw [hf] at hnone
      exact absurd hnone (by simp only [reduceCtorEq, not_false_eq_true])
    · rw [hf] at hnone
      exact absurd hnone (by simp only [reduceCtorEq, not_false_eq_true])

/-- After any moves of any group over one memory, the sidebars' entry is the
    last text that was written to it, be it by a stranger or as the word of the
    flag that an event has just set. No move of the group touches another entry,
    and a sidebar that is mounted takes the entry over if it is spelled exactly
    and starts from its options and its width otherwise. -/
theorem shared_entry (group : Group (Ledger String String)) (moves : List Move) :
    (Ledger.get? Sidebar.storageKey (run Storage.memory moves group).world =
      (writes Storage.memory moves group).getLast?.or
        (Ledger.get? Sidebar.storageKey group.world)) ∧
    (∀ (place : Nat) (event : Event) (sidebar : Sidebar) (flag : Bool),
      (run Storage.memory moves group).sidebars[place]? = some sidebar →
      sidebar.saves? event = some flag →
      ∃ after, (step Storage.memory (.act place event)
          (run Storage.memory moves group)).2.sidebars[place]? = some after ∧
        after.isOpen = flag) ∧
    (∀ (move : Move) (key : String), move.isOwn = true → key ≠ Sidebar.storageKey →
      Ledger.get? key (step Storage.memory move (run Storage.memory moves group)).2.world =
        Ledger.get? key (run Storage.memory moves group).world) ∧
    ∀ (options : SidebarOptions) (width : Option Float),
      Sidebar.mounted Storage.memory options width (run Storage.memory moves group).world =
        ({ options
           isOpen := Sidebar.taken
             (Ledger.get? Sidebar.storageKey (run Storage.memory moves group).world)
             options.startsOpen
           drawerOpen := false
           isMobile := width.any fun w => isNarrow w options.breakpoint },
          (run Storage.memory moves group).world) := by
  refine ⟨get?_run_memory moves group, ?_, ?_, fun options width => mounted_memory _ _ _⟩
  · intro place event sidebar flag hs hf
    exact isOpen_step_act Storage.memory hs hf
  · intro move key hown hk
    exact get?_step_memory_other hown _ hk

/-- A stranger spoils the entry and a flip on the desktop repairs it. -/
theorem shared_entry_flipped :
    let group : Group (Ledger String String) :=
      ⟨[Sidebar.fresh {}], [("locale", "en"), ("sidebar_state", "False")]⟩
    let moves : List Move := [.write "sidebar_state" "yes", .act 0 .toggle]
    let after := run Storage.memory moves group
    (after.sidebars[0]? = some { Sidebar.fresh {} with isOpen := false } ∧
      Sidebar.saves? { Sidebar.fresh {} with isOpen := false } .toggle = some true ∧
      ∃ flipped, (step Storage.memory (.act 0 .toggle) after).2.sidebars[0]? = some flipped ∧
        flipped.isOpen = true) ∧
    (Move.isOwn (.act 0 .toggle) = true ∧ "locale" ≠ Sidebar.storageKey ∧
      Ledger.get? "locale" (step Storage.memory (.act 0 .toggle) after).2.world =
        Ledger.get? "locale" after.world) :=
  ⟨⟨rfl, rfl, (shared_entry _ _).2.1 0 .toggle _ true rfl rfl⟩,
    rfl, by decide, (shared_entry _ _).2.2.1 _ _ rfl (by decide)⟩

end Group

end DashKit
