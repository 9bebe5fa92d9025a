import Mathlib.Data.List.Perm.Basic
import DashKit.Lifecycle.Registry

/-!
# Owners of Listeners

Where a listener can be while it has not been given back, and what one
operation does to that.

A registry keeps its listeners in slots and in scopes, and the listeners that
were handed to another one are inside it. `roots` lists those that are in no
other listener. The order in which they stand there is of no interest, so
operations are described up to a permutation, and `step_roots` says all there
is to say about one of them: it either puts some roots into a new listener, or
it takes some roots away and logs what they report. A move from a slot into a
scope takes nothing away, so it is of the second kind.

Nobody owns a listener that was released already. `Whole` is that invariant
for one listener and everything inside it, and it comes down with the roots.

## Main definitions

* `Listener.report`: What a listener reports when it is released.
* `Listener.held`: The listeners that were handed to it.
* `Listener.Whole`: Nothing in it was released.
* `Registry.roots`: The listeners in slots and scopes.
* `Registry.Step`: What one operation may do to the roots and the log.

## Theorems

* `dropAll_eq_flatMap`: Dropping several listeners drops one after the other.
* `report_mem_drop`: A whole listener reports itself.
* `drop_subset_of_held`: It reports all that it holds.
* `takeAll_perm`: Taking from slots moves listeners and loses none.
* `step_roots`: An operation does one of the two things above.
* `finish_perm`: Dropping everything drops the roots.
-/

namespace DashKit

namespace Listener

/-- What a listener reports when it is released. -/
def report (listener : Listener) : Release := ⟨listener.serial, listener.label⟩

/-- The listeners that were handed to a listener and that it still has. -/
def held : Listener → List Listener
  | mk _ _ pending => pending.getD []

/-- Neither a listener nor anything inside it was released. -/
inductive Whole : Listener → Prop
  | mk {serial : Nat} {label : String} {held : List Listener}
      (h : ∀ listener ∈ held, Whole listener) : Whole (.mk serial label (some held))

theorem dropAll_eq_flatMap (listeners : List Listener) :
    dropAll listeners = listeners.flatMap drop := by
  induction listeners with
  | nil => rw [dropAll, List.flatMap_nil]
  | cons listener listeners ih => rw [dropAll, ih, List.flatMap_cons]

/-- A whole listener reports itself first, and then all that it holds. -/
theorem drop_of_whole {listener : Listener} (h : Whole listener) :
    listener.drop = listener.report :: dropAll listener.held := by
  cases h
  rfl

theorem report_mem_drop {listener : Listener} (h : Whole listener) :
    listener.report ∈ listener.drop := by
  rw [drop_of_whole h]
  exact List.mem_cons_self

/-- What a held listener reports is reported by the one that holds it. -/
theorem drop_subset_of_held {outer inner : Listener} (h : Whole outer)
    (hi : inner ∈ outer.held) : inner.drop ⊆ outer.drop := by
  intro report hr
  rw [drop_of_whole h, dropAll_eq_flatMap]
  exact List.mem_cons_of_mem _ (List.mem_flatMap.mpr ⟨inner, hi, hr⟩)

theorem whole_of_held {outer inner : Listener} (h : Whole outer) (hi : inner ∈ outer.held) :
    Whole inner := by
  cases h with
  | mk h => exact h inner hi

end Listener

/-- A scope reports what its listeners report, the latest first. -/
theorem ListenerScope.releaseAll_eq (scope : ListenerScope) :
    scope.releaseAll = Listener.dropAll scope.reverse := by
  rw [releaseAll, Listener.dropAll_eq_flatMap, funext Listener.release_eq_drop]

theorem ListenerScope.releaseAll_perm (scope : ListenerScope) :
    scope.releaseAll.Perm (Listener.dropAll scope) := by
  rw [releaseAll_eq, Listener.dropAll_eq_flatMap, Listener.dropAll_eq_flatMap]
  exact (List.reverse_perm scope).flatMap_right _

/-- The label of the listener that an operation registers, if it does. -/
def Act.label? : Act → Option String
  | .acquire label _ => some label
  | _ => none

/-- Replacing one entry of a list trades what it contributes for what the new
    entry does. -/
theorem flatMap_set_perm {α β : Type} (f : α → List β) {xs : List α} {i : Nat} {x : α}
    (h : xs[i]? = some x) (y : α) :
    (f x ++ (xs.set i y).flatMap f).Perm (f y ++ xs.flatMap f) := by
  rcases List.getElem?_eq_some_iff.mp h with ⟨hi, hx⟩
  have hset := (List.set_perm_cons_eraseIdx hi y).flatMap_right f
  have hall := (List.getElem_cons_eraseIdx_perm hi).flatMap_right f
  rw [hx, List.flatMap_cons] at hall
  rw [List.flatMap_cons] at hset
  -- Both sides are the two contributions and those of the other entries.
  have hswap := (@List.perm_append_comm _ (f x) (f y)).append_right ((xs.eraseIdx i).flatMap f)
  rw [List.append_assoc, List.append_assoc] at hswap
  exact ((hset.append_left _).trans hswap).trans (hall.append_left _)

namespace Registry

/-- The listeners in some slots. -/
def inSlots (slots : List (Option Listener)) : List Listener :=
  slots.flatMap Option.toList

/-- The listeners in some scopes. -/
def inScopes (scopes : List (Option ListenerScope)) : List Listener :=
  scopes.flatMap fun scope => scope.getD []

/-- The listeners in slots and scopes: all that are in no other listener. -/
def roots (registry : Registry) : List Listener :=
  inScopes registry.scopes ++ inSlots registry.slots

/-- What one operation may do. It puts some of the roots into a new listener
    that takes the next slot, or it takes some of the roots away and logs what
    they report. -/
inductive Step (act : Act) (before after : Registry) : Prop
  | acquires {label : String} (held others : List Listener) (hact : act.label? = some label)
      (hbefore : before.roots.Perm (held ++ others))
      (hafter : after.roots.Perm (.mk before.slots.length label (some held) :: others))
      (hlog : after.log = before.log) (hslots : after.slots.length = before.slots.length + 1)
  | gives (given : List Listener) (hact : act.label? = none)
      (hroots : before.roots.Perm (given ++ after.roots))
      (hlog : after.log = before.log ++ Listener.dropAll given)
      (hslots : after.slots.length = before.slots.length)

/-- What is in a slot and what is left when it is emptied. -/
theorem inSlots_set (slots : List (Option Listener)) (slot : Nat) :
    (slots[slot]?.join.toList ++ inSlots (slots.set slot none)).Perm (inSlots slots) := by
  cases h : slots[slot]? with
  | none =>
      rw [List.set_eq_of_length_le (List.getElem?_eq_none_iff.mp h)]
      exact List.Perm.refl _
  | some content => exact flatMap_set_perm Option.toList h none

theorem inSlots_set_of_listener? {registry : Registry} {slot : Nat} {listener : Listener}
    (h : registry.listener? slot = some listener) :
    (listener :: inSlots (registry.slots.set slot none)).Perm (inSlots registry.slots) := by
  have hset := inSlots_set registry.slots slot
  rw [listener?] at h
  rwa [h] at hset

/-- A scope whose listeners are replaced by others. -/
theorem inScopes_set {registry : Registry} {place : Nat} {scope : ListenerScope}
    (h : registry.scope? place = some scope) (content : Option ListenerScope) :
    (scope ++ inScopes (registry.scopes.set place content)).Perm
      (content.getD [] ++ inScopes registry.scopes) := by
  rw [scope?, Option.join_eq_some_iff] at h
  exact flatMap_set_perm (fun scope => scope.getD []) h content

/-- Taking listeners out of slots moves them and loses none. -/
theorem takeAll_perm (slots : List (Option Listener)) (holds : List Nat) :
    ((takeAll slots holds).1 ++ inSlots (takeAll slots holds).2).Perm (inSlots slots) := by
  induction holds generalizing slots with
  | nil => exact List.Perm.refl _
  | cons slot holds ih =>
      -- A slot is emptied first, so a slot that is named twice gives its listener once.
      simp only [takeAll, List.append_assoc]
      exact ((ih (slots.set slot none)).append_left _).trans (inSlots_set slots slot)

theorem takeAll_length (slots : List (Option Listener)) (holds : List Nat) :
    (takeAll slots holds).2.length = slots.length := by
  induction holds generalizing slots with
  | nil => rfl
  | cons slot holds ih =>
      simp only [takeAll]
      rw [ih, List.length_set]

/-- An operation that finds nothing to work on is of the second kind. -/
theorem Step.refl {act : Act} (h : act.label? = none) (registry : Registry) :
    Step act registry registry :=
  .gives [] h (List.Perm.refl _) (List.append_nil _).symm rfl

theorem step_giveBack {act : Act} (hact : act.label? = none) (registry : Registry) (slot : Nat)
    {reports : Listener → List Release} (hreports : ∀ listener, reports listener = listener.drop) :
    Step act registry (registry.giveBack slot reports).2 := by
  unfold giveBack
  cases h : registry.listener? slot with
  | none => exact .refl hact registry
  | some listener =>
      refine .gives [listener] hact ?_ ?_ (List.length_set)
      · -- The scopes stay, and the slot's listener comes out in front.
        have hslots := (inSlots_set_of_listener? h).symm.append_left (inScopes registry.scopes)
        exact hslots.trans List.perm_middle
      · simp only [Listener.dropAll, List.append_nil, hreports]

theorem step_move {act : Act} (hact : act.label? = none) {registry : Registry}
    {place slot : Nat} {scope : ListenerScope} {listener : Listener}
    (hscope : registry.scope? place = some scope)
    (hslot : registry.listener? slot = some listener) :
    Step act registry (registry.move place scope slot listener) := by
  refine .gives [] hact ?_ (List.append_nil _).symm List.length_set
  have hslots := (inSlots_set_of_listener? hslot).symm
  have hscopes := inScopes_set hscope (some (scope ++ [listener]))
  rw [Option.getD_some, List.append_assoc, List.perm_append_left_iff] at hscopes
  -- The listener leaves the slots and joins the scopes.
  have hmoved := hscopes.symm.append_right (inSlots (registry.slots.set slot none))
  rw [List.nil_append]
  refine (hslots.append_left (inScopes registry.scopes)).trans ?_
  exact List.perm_middle.trans hmoved

theorem step_close {act : Act} (hact : act.label? = none) {registry : Registry} {place : Nat}
    {scope : ListenerScope} (h : registry.scope? place = some scope)
    (content : Option ListenerScope) (hc : content.getD [] = []) :
    Step act registry { registry with
      scopes := registry.scopes.set place content
      log := registry.log ++ scope.releaseAll } := by
  -- The latest listener is released first, so the listeners are given in reverse.
  refine .gives scope.reverse hact ?_ (by rw [ListenerScope.releaseAll_eq]) rfl
  have hscopes := inScopes_set h content
  rw [hc, List.nil_append] at hscopes
  have hrev := (List.reverse_perm scope).append_right
    (inScopes (registry.scopes.set place content))
  rw [roots, roots, ← List.append_assoc]
  exact (hrev.trans hscopes).symm.append_right (inSlots registry.slots)

theorem step_acquire (label : String) (holds : List Nat) (registry : Registry) :
    Step (.acquire label holds) registry (registry.step (.acquire label holds)).2 := by
  -- What is taken out of slots goes into the new listener, and all else stays a root.
  have htake := takeAll_perm registry.slots holds
  refine .acquires (takeAll registry.slots holds).1
    (inScopes registry.scopes ++ inSlots (takeAll registry.slots holds).2) rfl ?_ ?_ rfl ?_
  · exact (htake.symm.append_left _).trans (List.perm_append_comm_assoc _ _ _)
  · -- The new listener stands behind all the others.
    simp only [step, roots, inSlots, List.flatMap_append, List.flatMap_cons, List.flatMap_nil,
      Option.toList_some, List.append_nil]
    rw [← List.append_assoc]
    exact List.perm_append_singleton _ _
  · simp only [step, List.length_append, List.length_cons, List.length_nil, takeAll_length]

/-- An operation puts roots into a new listener, or takes roots away and logs
    their reports. -/
theorem step_roots (act : Act) (registry : Registry) :
    Step act registry (registry.step act).2 := by
  -- An operation on something that is not there finds nothing to work on.
  cases act with
  | acquire label holds => exact step_acquire label holds registry
  | release slot => exact step_giveBack rfl registry slot Listener.release_eq_drop
  | drop slot => exact step_giveBack rfl registry slot (fun _ => rfl)
  | openScope =>
      refine .gives [] rfl ?_ (List.append_nil _).symm rfl
      simp [step, roots, inScopes]
  | push place slot =>
      simp only [step]
      cases hscope : registry.scope? place with
      | none => exact .refl rfl registry
      | some scope =>
          cases hslot : registry.listener? slot with
          | none => exact .refl rfl registry
          | some listener => exact step_move rfl hscope hslot
  | pushSome place slot =>
      simp only [step]
      cases hscope : registry.scope? place with
      | none => exact .refl rfl registry
      | some scope =>
          cases slot with
          | none => exact .refl rfl registry
          | some slot =>
              simp only [Option.bind_some]
              cases hslot : registry.listener? slot with
              | none => exact .refl rfl registry
              | some listener => exact step_move rfl hscope hslot
  | releaseAll place =>
      simp only [step]
      cases h : registry.scope? place with
      | none => exact .refl rfl registry
      | some scope => exact step_close rfl h (some []) rfl
  | dropScope place =>
      simp only [step]
      cases h : registry.scope? place with
      | none => exact .refl rfl registry
      | some scope => exact step_close rfl h none rfl

/-- Dropping everything that is still owned drops the roots. -/
theorem finish_perm (registry : Registry) :
    registry.finish.Perm (Listener.dropAll registry.roots) := by
  rw [finish, Listener.dropAll_eq_flatMap, roots, List.flatMap_append]
  -- Scopes release backwards, which is the same listeners in another order.
  refine List.Perm.append ?_ ?_
  · rw [inScopes, List.flatMap_assoc]
    refine List.Perm.flatMap_left _ ?_
    intro scope _
    rw [← Listener.dropAll_eq_flatMap]
    exact ListenerScope.releaseAll_perm _
  · rw [inSlots, List.flatMap_assoc]
    refine List.Perm.flatMap_left _ ?_
    intro slot _
    cases slot <;> simp

/-- A root stands in a slot or in a scope that is still there. -/
theorem mem_roots {registry : Registry} {listener : Listener} :
    listener ∈ registry.roots ↔
      (∃ slot, registry.listener? slot = some listener) ∨
      ∃ place scope, registry.scope? place = some scope ∧ listener ∈ scope := by
  rw [roots, List.mem_append, or_comm]
  refine or_congr ?_ ?_
  · simp only [inSlots, List.mem_flatMap, Option.mem_toList, listener?,
      Option.join_eq_some_iff, ← List.mem_iff_getElem?, exists_eq_right]
  · constructor
    · intro h
      rcases List.mem_flatMap.mp h with ⟨scope, hs, hl⟩
      cases scope with
      | none => simp only [Option.getD_none, List.not_mem_nil] at hl
      | some scope =>
          rcases List.mem_iff_getElem?.mp hs with ⟨place, hp⟩
          exact ⟨place, scope, by rw [scope?, hp, Option.join_some], hl⟩
    · rintro ⟨place, scope, hs, hl⟩
      rw [scope?, Option.join_eq_some_iff] at hs
      exact List.mem_flatMap.mpr ⟨some scope, List.mem_of_getElem? hs, hl⟩

end Registry

end DashKit
