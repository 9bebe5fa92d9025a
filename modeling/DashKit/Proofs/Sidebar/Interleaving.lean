import DashKit.Proofs.Sidebar.Decoding
import DashKit.Proofs.Sidebar.Memory

/-!
# Sidebars That Do Not Notice Each Other

Several sidebars over one storage, whose events come in any order.

The sidebars of a page share the key they keep their flag under, so every one
of them writes over what another one wrote. Nobody notices during a visit,
because after its start a sidebar reads the storage only when it is restored.
Without that event, what can be seen of a sidebar is a function of its own
events: `sights_eq_alone` compares a sidebar in the middle of a group with a
sidebar that is alone, over another storage and from another world. All orders
in which the events of a group may come are covered by that, since they agree
on the events of each sidebar.

The storage does notice. In a memory the last event that saved decides what
the entry is, and the sidebar it happened to still has that flag at the end: a
later change of the flag would have been a later save. That is shown backwards
from the end of a run, as a part of it in which nobody saves leaves all desktop
flags alone.

## Main definitions

* `Group.own`, `Group.acts`: The events of one sidebar, and of all as moves.
* `Group.Interleaves`: An order of the events of some visits.
* `Group.sights`: What can be seen of one sidebar of a group.
* `Group.savers`: The sidebars whose events save, in order.

## Theorems

* `sights_eq_alone`: A sidebar of a group shows what it shows alone.
* `get?_run_acts_memory`: The entry is the flag of the last sidebar that saved.
* `interleaving_unnoticed`: Both for the sidebars of some visits, in every
  order of their events.
-/

namespace DashKit

/-- The event reads the storage. -/
def Event.restores : Event → Bool
  | .restore => true
  | _ => false

/-- What can be seen of a sidebar after an event: the answer and the flags. -/
def Turn.seen {σ : Type} (turn : Turn σ) : Option Bool × Snapshot :=
  (turn.answer, turn.sidebar.snapshot)

namespace Group

/-- The events that happen to the sidebar at a place, in order. -/
def own (place : Nat) (steps : List (Nat × Event)) : List Event :=
  steps.filterMap fun step => if step.1 = place then some step.2 else none

/-- Events with the places of their sidebars, as moves. -/
def acts (steps : List (Nat × Event)) : List Move :=
  steps.map fun step => .act step.1 step.2

/-- An order in which the events of some visits may come: those of each visit
    keep their own order, and there are no others. -/
def Interleaves (visits : List (Start × List Event)) (steps : List (Nat × Event)) : Prop :=
  ∀ place, own place steps = (visits[place]?.map Prod.snd).getD []

variable {σ τ : Type} (storage : Storage σ) (other : Storage τ)

/-- A group of new sidebars, built one after the other. -/
def built (starts : List Start) (world : σ) : Group σ :=
  run storage (starts.map Move.build) ⟨[], world⟩

/-- What can be seen of the sidebar at a place after each of its own events. -/
def sights (place : Nat) : List (Nat × Event) → Group σ → List (Option Bool × Snapshot)
  | [], _ => []
  | (acted, event) :: steps, group =>
      let reply := step storage (.act acted event) group
      (if acted = place then
        reply.2.sidebars[place]?.toList.map fun sidebar => (reply.1, sidebar.snapshot)
      else []) ++ sights place steps reply.2

/-- The places of the sidebars whose events save, in order. -/
def savers : List (Nat × Event) → Group σ → List Nat
  | [], _ => []
  | (acted, event) :: steps, group =>
      (if (persisted? (.act acted event) group).isSome then [acted] else []) ++
        savers steps (step storage (.act acted event) group).2

/-! ## One Sidebar of a Group -/

/-- An event leaves its turn at its place. -/
theorem step_act_self {place : Nat} {sidebar : Sidebar} {group : Group σ}
    (h : group.sidebars[place]? = some sidebar) (event : Event) :
    let turn := sidebar.step storage event group.world
    (step storage (.act place event) group).1 = turn.answer ∧
      (step storage (.act place event) group).2.sidebars[place]? = some turn.sidebar := by
  have hlt : place < group.sidebars.length := (List.getElem?_eq_some_iff.mp h).1
  simp only [step, h, List.getElem?_set_self hlt, and_self]

/-- An event touches no sidebar at another place. -/
theorem step_act_ne {place acted : Nat} (hne : acted ≠ place) (event : Event) (group : Group σ) :
    (step storage (.act acted event) group).2.sidebars[place]? = group.sidebars[place]? := by
  simp only [step]
  cases group.sidebars[acted]? with
  | none => rfl
  | some sidebar => exact List.getElem?_set_ne hne

/-- In any group a sidebar that is not restored answers and shows what it does
    alone, whatever storage and world it is then given. -/
theorem sights_eq_alone {place : Nat} {steps : List (Nat × Event)}
    (hfree : ∀ event ∈ own place steps, event.restores = false) {group : Group σ}
    {sidebar : Sidebar} (h : group.sidebars[place]? = some sidebar) (world : τ) :
    sights storage place steps group =
      (Sidebar.turns other (own place steps) sidebar world).map fun turn => turn.2.seen := by
  induction steps generalizing group sidebar world with
  | nil => rfl
  | cons step steps ih =>
      rcases step with ⟨acted, event⟩
      by_cases ha : acted = place
      · subst ha
        have hown : own acted ((acted, event) :: steps) = event :: own acted steps :=
          List.filterMap_cons_some (if_pos rfl)
        rw [hown, List.forall_mem_cons] at hfree
        rcases step_act_self storage h event with ⟨hanswer, hafter⟩
        -- A restore is the one event that reads the storage, and it is not among them.
        have hread : event = .restore →
            (storage.load Sidebar.storageKey group.world).1.bind Flag.parse? =
              (other.load Sidebar.storageKey world).1.bind Flag.parse? := by
          rintro rfl
          exact absurd hfree.1 Bool.true_eq_false.mp
        rcases Sidebar.step_congr storage other sidebar hread with ⟨hsame, hsidebar⟩
        rw [hown, Sidebar.turns, List.map_cons, sights, if_pos rfl, ih hfree.2 hafter _, hafter,
          hanswer, hsame, hsidebar]
        rfl
      -- Somebody else's event leaves the sidebar to its next one.
      · have hown : own place ((acted, event) :: steps) = own place steps :=
          List.filterMap_cons_none (if_neg ha)
        rw [hown] at hfree ⊢
        rw [sights, if_neg ha, List.nil_append]
        exact ih hfree ((step_act_ne storage ha event group).trans h) world

/-! ## The Last One to Save -/

/-- An event that neither saves nor restores leaves all desktop flags as they
    are. -/
theorem isOpen_step_act_of_none {acted : Nat} {event : Event} (hfree : event.restores = false)
    {group : Group σ} (hnone : persisted? (.act acted event) group = none) (place : Nat) :
    (step storage (.act acted event) group).2.sidebars[place]?.map Sidebar.isOpen =
      group.sidebars[place]?.map Sidebar.isOpen := by
  by_cases ha : acted = place
  · subst ha
    cases hs : group.sidebars[acted]? with
    | none => simp only [step, hs, Option.map_none]
    | some sidebar =>
        simp only [persisted?, hs, Option.bind_some] at hnone
        rw [(step_act_self storage hs event).2, Option.map_some, Option.map_some,
          Sidebar.step_isOpen]
        -- A desktop flag is set by an event that saves, or by a restore.
        cases event with
        | restore => exact absurd hfree Bool.true_eq_false.mp
        | _ => simp only [hnone, Option.getD_none]
  · rw [step_act_ne storage ha]

/-- A run in which nobody saves and nobody is restored leaves all desktop flags
    as they are. -/
theorem isOpen_run_of_savers_nil {steps : List (Nat × Event)}
    (hfree : ∀ step ∈ steps, step.2.restores = false) {group : Group σ}
    (hnil : savers storage steps group = []) (place : Nat) :
    (run storage (acts steps) group).sidebars[place]?.map Sidebar.isOpen =
      group.sidebars[place]?.map Sidebar.isOpen := by
  induction steps generalizing group with
  | nil => rfl
  | cons step steps ih =>
      rcases step with ⟨acted, event⟩
      rw [List.forall_mem_cons] at hfree
      rw [savers, List.append_eq_nil_iff] at hnil
      have hnone : persisted? (.act acted event) group = none := by
        -- The first event does not save, or its place would head the savers.
        rw [← Option.not_isSome_iff_eq_none]
        intro hsome
        rw [if_pos hsome] at hnil
        exact absurd hnil.1 (List.cons_ne_nil _ _)
      exact (ih hfree.2 hnil.2).trans (isOpen_step_act_of_none storage hfree.1 hnone place)

/-- After events that restore nobody, the entry of a memory is the word of the
    flag that the last sidebar to save has now, or what it was if none saved. -/
theorem get?_run_acts_memory {steps : List (Nat × Event)}
    (hfree : ∀ step ∈ steps, step.2.restores = false) (group : Group (Ledger String String)) :
    let final := run Storage.memory (acts steps) group
    Ledger.get? Sidebar.storageKey final.world =
      match (savers Storage.memory steps group).getLast? with
      | some place => (final.sidebars[place]?.map Sidebar.isOpen).map Flag.word
      | none => Ledger.get? Sidebar.storageKey group.world := by
  induction steps generalizing group with
  | nil => rfl
  | cons step steps ih =>
      rcases step with ⟨acted, event⟩
      rw [List.forall_mem_cons] at hfree
      refine (ih hfree.2 _).trans ?_
      rw [savers, List.getLast?_append]
      cases hlast : (savers Storage.memory steps
          (step Storage.memory (.act acted event) group).2).getLast? with
      | some place => rfl
      -- Nobody saves any more, so it is about this event.
      | none =>
          rw [Option.none_or]
          refine (get?_step_memory (.act acted event) group).trans ?_
          have hown : (Move.act acted event).isOwn = true := rfl
          have hwritten := written?_of_isOwn hown group
          cases hp : persisted? (.act acted event) group with
          | none =>
              rw [hwritten, hp]
              rfl
          | some flag =>
              rcases Option.bind_eq_some_iff.mp hp with ⟨sidebar, hs, hflag⟩
              rcases isOpen_step_act Storage.memory hs hflag with ⟨after, hafter, hopen⟩
              -- The flag it saved is the one its sidebar still has at the end.
              have hkept := isOpen_run_of_savers_nil Storage.memory hfree.2
                (List.getLast?_eq_none_iff.mp hlast) acted
              rw [hafter, Option.map_some, hopen] at hkept
              rw [hwritten, hp, Option.map_some, Option.some_or, Option.isSome_some, if_pos rfl,
                List.getLast?_singleton]
              exact (congrArg (Option.map Flag.word) hkept).symm

/-! ## Visits -/

/-- A sidebar stays where it is while others are built behind it. -/
theorem getElem?_run_build (starts : List Start) {place : Nat} {sidebar : Sidebar}
    {group : Group σ} (h : group.sidebars[place]? = some sidebar) :
    (run storage (starts.map Move.build) group).sidebars[place]? = some sidebar := by
  induction starts generalizing group with
  | nil => exact h
  | cons start starts ih =>
      exact ih ((List.getElem?_append_left (List.getElem?_eq_some_iff.mp h).1).trans h)

/-- Sidebars stand in the order of their starts, each as it starts over the
    world that the ones before it left. -/
theorem getElem?_run_build_new {starts : List Start} {place : Nat} {start : Start}
    (h : starts[place]? = some start) (group : Group σ) :
    (run storage (starts.map Move.build) group).sidebars[group.sidebars.length + place]? =
      some (begin storage start
        (run storage ((starts.take place).map Move.build) group).world).1 := by
  induction starts generalizing place group with
  | nil => exact absurd h (Option.some_ne_none start).symm
  | cons first starts ih =>
      cases place with
      | zero =>
          cases Option.some_inj.mp h
          -- The first one is built behind the group and is not moved by the others.
          exact getElem?_run_build storage starts List.getElem?_concat_length
      | succ place =>
          have hnew := ih h (step storage (.build first) group).2
          simp only [step, List.length_append, List.length_singleton] at hnew
          rwa [Nat.add_assoc, Nat.add_comm 1] at hnew

theorem getElem?_built {starts : List Start} {place : Nat} {start : Start}
    (h : starts[place]? = some start) (world : σ) :
    (built storage starts world).sidebars[place]? =
      some (begin storage start (built storage (starts.take place) world).world).1 := by
  have hnew := getElem?_run_build_new storage h ⟨[], world⟩
  rwa [List.length_nil, Nat.zero_add] at hnew

/-- New sidebars leave a memory as it is. -/
theorem world_run_build_memory (starts : List Start) (group : Group (Ledger String String)) :
    (run Storage.memory (starts.map Move.build) group).world = group.world := by
  induction starts generalizing group with
  | nil => rfl
  | cons start starts ih =>
      have hown : (Move.build start).isOwn = true := rfl
      exact (ih _).trans (step_memory hown group)

/-- The events of an order that some visits have are events of the visits. -/
theorem Interleaves.forall_mem {visits : List (Start × List Event)} {steps : List (Nat × Event)}
    (h : Interleaves visits steps) {P : Event → Prop}
    (hP : ∀ visit ∈ visits, ∀ event ∈ visit.2, P event) : ∀ step ∈ steps, P step.2 := by
  intro step hstep
  -- An event is one of its own visit's, and none of a visit that does not exist.
  have hown : step.2 ∈ own step.1 steps := List.mem_filterMap.mpr ⟨step, hstep, if_pos rfl⟩
  rw [h step.1] at hown
  cases hv : visits[step.1]? with
  | none => exact absurd (hv ▸ hown) List.not_mem_nil
  | some visit =>
      rw [hv] at hown
      exact hP visit (List.mem_of_getElem? hv) step.2 hown

/-- Any number of sidebars are built over one storage, each over what the ones
    before it left there, and then have events of their own, none of which
    restores them. In every order in which the events may come, after each of
    its own events a sidebar answers and shows what it does alone from the same
    start, whatever storage it has there. If the storage is a memory, its entry
    ends up as the flag that the last sidebar to save has at the end, and as it
    was if none saved. -/
theorem interleaving_unnoticed (visits : List (Start × List Event)) (steps : List (Nat × Event))
    (h : Interleaves visits steps)
    (hfree : ∀ visit ∈ visits, ∀ event ∈ visit.2, event.restores = false) :
    (∀ (σ τ : Type) (storage : Storage σ) (other : Storage τ) (world : σ) (world' : τ)
      (place : Nat) (visit : Start × List Event), visits[place]? = some visit →
      let starts := visits.map Prod.fst
      let group := built storage starts world
      let sidebar := (begin storage visit.1 (built storage (starts.take place) world).world).1
      group.sidebars[place]? = some sidebar ∧
        sights storage place steps group =
          (Sidebar.turns other visit.2 sidebar world').map fun turn => turn.2.seen) ∧
    ∀ entries : Ledger String String,
      let group := built Storage.memory (visits.map Prod.fst) entries
      let final := run Storage.memory (acts steps) group
      Ledger.get? Sidebar.storageKey final.world =
        match (savers Storage.memory steps group).getLast? with
        | some place => (final.sidebars[place]?.map Sidebar.isOpen).map Flag.word
        | none => Ledger.get? Sidebar.storageKey entries := by
  refine ⟨?_, ?_⟩
  · intro σ τ storage other world world' place visit hvisit starts group sidebar
    have hstart : starts[place]? = some visit.1 := by
      rw [List.getElem?_map, hvisit, Option.map_some]
    have hsidebar : group.sidebars[place]? = some sidebar := getElem?_built storage hstart world
    have hown : own place steps = visit.2 := by
      rw [h place, hvisit]
      rfl
    refine ⟨hsidebar, ?_⟩
    rw [← hown]
    refine sights_eq_alone storage other ?_ hsidebar world'
    intro event hevent
    exact hfree visit (List.mem_of_getElem? hvisit) event (hown ▸ hevent)
  · intro entries group final
    -- The visits found the entry as it is before all of them.
    have hentry : group.world = entries := world_run_build_memory _ _
    rw [← hentry]
    exact get?_run_acts_memory (h.forall_mem hfree) group

/-- Two sidebars over a spoilt entry, of which the second was not restored and
    does not listen to keys. Between its events the first one saves, and a
    lone sidebar without any storage shows the same as the second. The first
    one saves last. -/
theorem interleaving_unnoticed_spoilt :
    let chord : Chord := { key := "b", control := true }
    let deaf : SidebarOptions := { startsOpen := false, shortcutEnabled := false }
    let visits : List (Start × List Event) :=
      [({}, [.toggle, .press chord]),
        ({ options := deaf, isMounted := false }, [.press chord, .toggle, .setDrawer true])]
    let steps : List (Nat × Event) :=
      [(1, .press chord), (0, .toggle), (1, .toggle), (0, .press chord), (1, .setDrawer true)]
    let entries : Ledger String String := [("sidebar_state", "yes")]
    let group := built Storage.memory (visits.map Prod.fst) entries
    let final := run Storage.memory (acts steps) group
    Interleaves visits steps ∧
      (∀ visit ∈ visits, ∀ event ∈ visit.2, event.restores = false) ∧
      sights Storage.memory 1 steps group =
        [(some false, ⟨false, false, false⟩), (none, ⟨true, false, false⟩),
          (none, ⟨true, true, false⟩)] ∧
      (savers Storage.memory steps group).getLast? = some 0 ∧
      Ledger.get? Sidebar.storageKey final.world =
        (final.sidebars[0]?.map Sidebar.isOpen).map Flag.word ∧
      Ledger.get? Sidebar.storageKey final.world = some "true" := by
  intro chord deaf visits steps entries group final
  have horder : Interleaves visits steps
    | 0 => rfl
    | 1 => rfl
    | place + 2 => by simp [own, steps, visits]
  have hfree : ∀ visit ∈ visits, ∀ event ∈ visit.2, event.restores = false := by
    simp only [List.mem_cons, List.not_mem_nil, or_false, Event.restores, forall_eq_or_imp,
      forall_eq, and_self, visits]
  rcases interleaving_unnoticed visits steps horder hfree with ⟨hshown, hentry⟩
  rcases hshown _ _ Storage.memory Storage.disabled entries () 1 _ rfl with ⟨_, hsights⟩
  have hlast : (savers Storage.memory steps group).getLast? = some 0 := by decide
  have hword := hentry entries
  simp only [show (savers Storage.memory steps (built _ _ _)).getLast? = _ from hlast] at hword
  exact ⟨horder, hfree, hsights.trans (by decide), hlast, hword, by decide⟩

end Group

end DashKit
