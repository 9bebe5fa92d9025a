import DashKit.Proofs.Sidebar.Run

/-!
# Storages That Decode Alike

What a visit shows of its storage is what the answers of its loads decode to.

Two storages may have nothing in common: one may keep what it is told, the
other forget it, answer with texts of its own, or be written to by someone else
between two calls. As long as the loads of a visit over the one and over the
other decode to the same, load by load, nobody who looks at the sidebar can tell
them apart, and they are told to save the same. A text that spells no flag
counts as no text.

The two visits are followed side by side. At every point they have the same
sidebar, have made as many loads, and have saved the same. Only restoring reads
the storage, and what it takes over is what its load decodes to. That this load
is the same one on both sides, by its number, is why the number of loads is part
of the comparison. Saving is decided by the sidebar alone.

## Main definitions

* `Call.loads`, `Call.saved`: The answers to the loads of a record, and what it
  saved.
* `DecodeAlike`: Answers that decode to the same, one by one.
* `Turn.shown`: What can be seen after an event.
* `Sidebar.Alike`: Records with the same saves and as many loads.
* `Start.calls`, `Start.shown`: The calls of a visit, and what can be seen of it.

## Theorems

* `run_extends`: A run only adds to a record.
* `step_congr`: An event depends on what its load decodes to.
* `Alike.step`, `run_alike`: Two visits side by side.
* `begin_eq_run`: The start of a visit as events.
* `shown_of_decodeAlike`: Over storages that decode alike the same is seen.
-/

namespace DashKit

namespace Call

/-- What the loads of a record found, in order. -/
def loads (calls : List Call) : List (Option String) :=
  calls.filterMap fun
    | .load _ found => some found
    | .save _ _ => none

/-- What a record saved, in order, under which keys. -/
def saved (calls : List Call) : List (String × String) :=
  calls.filterMap fun
    | .load _ _ => none
    | .save key value => some (key, value)

theorem loads_append (calls more : List Call) : loads (calls ++ more) = loads calls ++ loads more :=
  List.filterMap_append

end Call

/-- Answers that decode to the same flag, or both to none, one by one. -/
def DecodeAlike (one other : List (Option String)) : Prop :=
  ∀ (i : Nat) (found found' : Option String), one[i]? = some found → other[i]? = some found' →
    found.bind Flag.parse? = found'.bind Flag.parse?

/-- What can be seen after an event: its answer, the flags, and all that was
    saved so far. -/
structure Shown where
  answer : Option Bool
  snapshot : Snapshot
  saved : List (String × String)
  deriving DecidableEq, Repr

/-- What can be seen after a turn over a storage that keeps a record. -/
def Turn.shown {σ : Type} (turn : Turn (σ × List Call)) : Shown :=
  ⟨turn.answer, turn.sidebar.snapshot, Call.saved turn.world.2⟩

namespace DecodeAlike

theorem of_append {one other more more' : List (Option String)}
    (h : DecodeAlike (one ++ more) (other ++ more')) : DecodeAlike one other := by
  intro i found found' hfound hfound'
  refine h i found found' ?_ ?_
  · rw [List.getElem?_append_left (List.getElem?_eq_some_iff.mp hfound).1, hfound]
  · rw [List.getElem?_append_left (List.getElem?_eq_some_iff.mp hfound').1, hfound']

/-- The answers behind as many others on both sides. -/
theorem at_length {one other more more' : List (Option String)} {found found' : Option String}
    (h : DecodeAlike (one ++ found :: more) (other ++ found' :: more'))
    (hlength : one.length = other.length) : found.bind Flag.parse? = found'.bind Flag.parse? := by
  refine h one.length found found' ?_ ?_
  · rw [List.getElem?_append_right (Nat.le_refl _), Nat.sub_self, List.getElem?_cons_zero]
  · rw [hlength, List.getElem?_append_right (Nat.le_refl _), Nat.sub_self,
      List.getElem?_cons_zero]

theorem of_map {one other : List (Option String)}
    (h : one.map (fun found => found.bind Flag.parse?) =
      other.map fun found => found.bind Flag.parse?) : DecodeAlike one other := by
  intro i found found' hfound hfound'
  have hi := congrArg (fun decoded => decoded[i]?) h
  rw [List.getElem?_map, List.getElem?_map, hfound, hfound'] at hi
  exact Option.some_inj.mp hi

end DecodeAlike

namespace Sidebar

variable {σ τ : Type} (storage : Storage σ) (other : Storage τ)

/-- An event only adds to a record. -/
theorem step_extends (event : Event) (sidebar : Sidebar) (world : σ × List Call) :
    ∃ more, (sidebar.step storage.recorded event world).world.2 = world.2 ++ more := by
  rw [step_world]
  cases event with
  | restore => exact ⟨_, rfl⟩
  | _ =>
      simp only
      cases sidebar.saves? _ with
      | some flag => exact ⟨_, rfl⟩
      | none => exact ⟨[], (List.append_nil _).symm⟩

/-- A run only adds to a record. -/
theorem run_extends (events : List Event) (sidebar : Sidebar) (world : σ × List Call) :
    ∃ more, (run storage.recorded events sidebar world).2.2 = world.2 ++ more := by
  induction events generalizing sidebar world with
  | nil => exact ⟨[], (List.append_nil _).symm⟩
  | cons event events ih =>
      rcases step_extends storage event sidebar world with ⟨first, hfirst⟩
      rcases ih (sidebar.step storage.recorded event world).sidebar
        (sidebar.step storage.recorded event world).world with ⟨more, hmore⟩
      exact ⟨first ++ more, by rw [run, hmore, hfirst, List.append_assoc]⟩

/-- Two records with the same saves and as many loads. -/
structure Alike (calls calls' : List Call) : Prop where
  saved : Call.saved calls = Call.saved calls'
  loads : (Call.loads calls).length = (Call.loads calls').length

/-- What an event answers and leaves depends on the storage only through what
    the load of a restoring event decodes to. -/
theorem step_congr {event : Event} (sidebar : Sidebar) {world : σ} {world' : τ}
    (h : event = .restore → (storage.load storageKey world).1.bind Flag.parse? =
      (other.load storageKey world').1.bind Flag.parse?) :
    (sidebar.step storage event world).answer = (sidebar.step other event world').answer ∧
      (sidebar.step storage event world).sidebar = (sidebar.step other event world').sidebar := by
  -- A flip never loads, so it comes out alike over any two storages.
  have htoggle : (sidebar.toggle storage world).1 = (sidebar.toggle other world').1 := by
    rw [toggle_eq, toggle_eq]
    split <;> rfl
  cases event with
  | restore => simp only [step, restore, storedOpen, h rfl, and_self]
  | toggle => exact ⟨rfl, htoggle⟩
  | press chord =>
      simp only [step_press]
      split
      · exact ⟨rfl, htoggle⟩
      · exact ⟨rfl, rfl⟩
  | _ => exact ⟨rfl, rfl⟩

/-- An event saves the same, or makes one more load, on both sides. -/
theorem Alike.step {before : σ × List Call} {before' : τ × List Call}
    (h : Alike before.2 before'.2) (event : Event) (sidebar : Sidebar) :
    Alike (sidebar.step storage.recorded event before).world.2
      (sidebar.step other.recorded event before').world.2 := by
  -- What an event saves does not depend on the world, and a restore loads once on each side.
  rw [step_world, step_world]
  cases event with
  | restore =>
      constructor
      · simpa [Storage.recorded, Call.saved] using h.saved
      · simpa [Storage.recorded, Call.loads] using h.loads
  | _ =>
      simp only
      cases sidebar.saves? _ with
      | none => exact h
      | some flag =>
          constructor
          · simpa [Storage.recorded, Call.saved] using h.saved
          · simpa [Storage.recorded, Call.loads] using h.loads

/-- The load of a restoring event is the same one on both sides, by its
    number. -/
theorem restore_congr {sidebar : Sidebar} {before : σ × List Call} {before' : τ × List Call}
    (h : Alike before.2 before'.2)
    (hloads : DecodeAlike (Call.loads (sidebar.step storage.recorded .restore before).world.2)
      (Call.loads (sidebar.step other.recorded .restore before').world.2)) :
    (storage.load storageKey before.1).1.bind Flag.parse? =
      (other.load storageKey before'.1).1.bind Flag.parse? := by
  -- The new answer stands last in both records, which are equally long so far.
  have hcalls : ∀ (calls : List Call) (found : Option String),
      Call.loads (calls ++ [.load storageKey found]) = Call.loads calls ++ found :: [] :=
    fun calls found => List.filterMap_append
  rw [step_world, step_world] at hloads
  simp only [Storage.recorded, hcalls] at hloads
  exact hloads.at_length h.loads

/-- Two runs whose loads decode to the same show the same after every event,
    and end with the same sidebar. -/
theorem run_alike (events : List Event) {sidebar : Sidebar} {before : σ × List Call}
    {before' : τ × List Call} (h : Alike before.2 before'.2)
    (hloads : DecodeAlike (Call.loads (run storage.recorded events sidebar before).2.2)
      (Call.loads (run other.recorded events sidebar before').2.2)) :
    (turns storage.recorded events sidebar before).map (fun turn => turn.2.shown) =
      (turns other.recorded events sidebar before').map (fun turn => turn.2.shown) ∧
    (run storage.recorded events sidebar before).1 =
      (run other.recorded events sidebar before').1 ∧
    Alike (run storage.recorded events sidebar before).2.2
      (run other.recorded events sidebar before').2.2 := by
  induction events generalizing sidebar before before' with
  | nil => exact ⟨rfl, rfl, h⟩
  | cons event events ih =>
      have hstep := h.step storage other event sidebar
      -- What was loaded so far is a first part of all that will be.
      have hfirst : DecodeAlike (Call.loads (sidebar.step storage.recorded event before).world.2)
          (Call.loads (sidebar.step other.recorded event before').world.2) := by
        rcases run_extends storage events (sidebar.step storage.recorded event before).sidebar
          (sidebar.step storage.recorded event before).world with ⟨more, hmore⟩
        rcases run_extends other events (sidebar.step other.recorded event before').sidebar
          (sidebar.step other.recorded event before').world with ⟨more', hmore'⟩
        rw [run, run, hmore, hmore', Call.loads_append, Call.loads_append] at hloads
        exact hloads.of_append
      have hload : event = .restore → (storage.load storageKey before.1).1.bind Flag.parse? =
          (other.load storageKey before'.1).1.bind Flag.parse? := by
        rintro rfl
        exact restore_congr storage other h hfirst
      rcases step_congr storage.recorded other.recorded sidebar hload with ⟨hanswer, hsidebar⟩
      have hturn : (sidebar.step storage.recorded event before).shown =
          (sidebar.step other.recorded event before').shown := by
        rw [Turn.shown, Turn.shown, hanswer, hsidebar, hstep.saved]
      -- From here on both runs go on with one sidebar.
      rw [run, run, ← hsidebar] at hloads ⊢
      rcases ih hstep hloads with ⟨hshown, hlast⟩
      refine ⟨?_, hlast⟩
      rw [turns, turns, List.map_cons, List.map_cons, hturn, ← hsidebar, hshown]

end Sidebar

namespace Start

variable {σ τ : Type} (storage : Storage σ) (other : Storage τ)

/-- The events that a new sidebar stands for: it is restored and measured, or
    neither. -/
def events (start : Start) : List Event :=
  if start.isMounted then .restore :: start.width.toList.map .resize else []

/-- A new sidebar is a fresh one with the events of its start behind it. -/
theorem begin_eq_run (start : Start) (world : σ) :
    Group.begin storage start world =
      Sidebar.run storage start.events (Sidebar.fresh start.options) world := by
  unfold Group.begin events
  by_cases hm : start.isMounted = true
  · rw [if_pos hm, if_pos hm]
    cases start.width <;> rfl
  · rw [if_neg hm, if_neg hm]
    rfl

/-- The calls of a visit, from its start on. -/
def calls (start : Start) (events : List Event) (world : σ) : List Call :=
  let begun := Group.begin storage.recorded start (world, [])
  (Sidebar.run storage.recorded events begun.1 begun.2).2.2

/-- What can be seen of a visit, after its start and after every event. -/
def shown (start : Start) (events : List Event) (world : σ) : List Shown :=
  let begun := Group.begin storage.recorded start (world, [])
  ⟨none, begun.1.snapshot, Call.saved begun.2.2⟩ ::
    (Sidebar.turns storage.recorded events begun.1 begun.2).map fun turn => turn.2.shown

/-- Two visits with the same start and the same events, over any two storages.
    If their loads decode to the same, load by load, then after the start and
    after every event they show the same flags, answer the same, and have saved
    the same. -/
theorem shown_of_decodeAlike (start : Start) (events : List Event) (world : σ) (world' : τ)
    (h : DecodeAlike (Call.loads (start.calls storage events world))
      (Call.loads (start.calls other events world'))) :
    start.shown storage events world = start.shown other events world' := by
  have hnone : Sidebar.Alike [] [] := ⟨rfl, rfl⟩
  simp only [calls, begin_eq_run] at h
  -- The loads of the start come first.
  have hbegun : DecodeAlike
      (Call.loads (Sidebar.run storage.recorded start.events (Sidebar.fresh start.options)
        (world, [])).2.2)
      (Call.loads (Sidebar.run other.recorded start.events (Sidebar.fresh start.options)
        (world', [])).2.2) := by
    rcases Sidebar.run_extends storage events _ _ with ⟨more, hmore⟩
    rcases Sidebar.run_extends other events _ _ with ⟨more', hmore'⟩
    rw [hmore, hmore', Call.loads_append, Call.loads_append] at h
    exact h.of_append
  rcases Sidebar.run_alike storage other start.events hnone hbegun with ⟨_, hsidebar, halike⟩
  rw [← hsidebar] at h
  -- The events come behind the start, from one sidebar and over records that are alike.
  rcases Sidebar.run_alike storage other events halike h with ⟨hshown, _⟩
  simp only [shown, begin_eq_run]
  rw [← hsidebar, halike.saved, hshown]

/-- A memory with a malformed entry, and a storage that forgets what it is told
    and answers by a list of its own, as long as the flags they answer are the
    same. -/
theorem shown_of_decodeAlike_scripted :
    let scripted : Storage (List (Option String)) :=
      { load := fun _ answers => (answers.head?.join, answers.tail)
        save := fun _ _ answers => answers }
    let start : Start := {}
    let events : List Event := [.toggle, .toggle, .setDrawer true, .toggle, .restore]
    let entries : Ledger String String := [("sidebar_state", "maybe")]
    let answers : List (Option String) := [none, some "false"]
    DecodeAlike (Call.loads (start.calls Storage.memory events entries))
        (Call.loads (start.calls scripted events answers)) ∧
      start.shown Storage.memory events entries = start.shown scripted events answers := by
  intro scripted start events entries answers
  have h : DecodeAlike (Call.loads (start.calls Storage.memory events entries))
      (Call.loads (start.calls scripted events answers)) :=
    DecodeAlike.of_map (by decide)
  exact ⟨h, shown_of_decodeAlike Storage.memory scripted start events entries answers h⟩

end Start

end DashKit
