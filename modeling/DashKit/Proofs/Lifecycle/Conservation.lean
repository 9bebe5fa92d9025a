import Mathlib.Data.List.Nodup
import DashKit.Proofs.Lifecycle.Ownership

/-!
# Every Listener is Released Once

Over any run of operations, listeners are neither lost nor given back twice.

The argument is a balance. On one side stands what was logged so far together
with what the roots would report if they were dropped now; on the other what
was registered. An operation that registers a listener adds one report to both
sides, and an operation that gives listeners back moves reports from the roots
to the log. So the two sides stay permutations of each other, and since
listeners are numbered, no report occurs twice on either.

What was not logged yet is therefore reported by a root, and is found either
at the root or further inside it, where each step inwards goes through a
listener that was not released either. That is what it means to be owned.

## Main definitions

* `acquired`: What the operations of a run register.
* `Registry.run`: A run of operations.
* `Registry.Owned`: A listener is still owned, and by whom.
* `Registry.Balanced`: The two sides agree, and no root was released.

## Theorems

* `step_balanced`, `run_balanced`: Operations keep the balance.
* `acquired_nodup`: No two registrations have the same number.
* `owned_of_mem_drop`: What a root would report is owned.
* `whole_of_owned`: What is owned was not released, and a root would report it.
* `run_releases_once`: A listener is released once, and not while it is owned.
-/

namespace DashKit

/-- What the operations of a run register, numbered from `n` on. -/
def acquired (n : Nat) : List Act → List Release
  | [] => []
  | act :: acts =>
      match act.label? with
      | none => acquired n acts
      | some label => ⟨n, label⟩ :: acquired (n + 1) acts

theorem le_serial_of_mem_acquired {n : Nat} {acts : List Act} {report : Release}
    (h : report ∈ acquired n acts) : n ≤ report.serial := by
  induction acts generalizing n with
  | nil => simp only [acquired, List.not_mem_nil] at h
  | cons act acts ih =>
      simp only [acquired] at h
      split at h
      · exact ih h
      · rcases List.mem_cons.mp h with rfl | h
        · exact Nat.le_refl n
        -- The later numbers start behind this one.
        · have := ih h
          omega

/-- Registrations are told apart by their numbers. -/
theorem acquired_nodup (n : Nat) (acts : List Act) : (acquired n acts).Nodup := by
  induction acts generalizing n with
  | nil => exact List.nodup_nil
  | cons act acts ih =>
      simp only [acquired]
      split
      · exact ih n
      · refine List.nodup_cons.mpr ⟨?_, ih (n + 1)⟩
        intro h
        have := le_serial_of_mem_acquired h
        simp only at this
        omega

namespace Registry

/-- The operations of a run, one after the other. -/
def run (acts : List Act) (registry : Registry) : Registry :=
  acts.foldl (fun registry act => (registry.step act).2) registry

/-- A listener is still owned: by a caller, by a scope that is still there, or
    by the closure of a listener that was not released yet. -/
inductive Owned (registry : Registry) : Listener → Prop
  | caller {slot : Nat} {listener : Listener}
      (h : registry.listener? slot = some listener) : Owned registry listener
  | scope {place : Nat} {scope : ListenerScope} {listener : Listener}
      (h : registry.scope? place = some scope) (hl : listener ∈ scope) : Owned registry listener
  | closure {outer inner : Listener} (ho : Owned registry outer)
      (hr : registry.log.count outer.report = 0) (hi : inner ∈ outer.held) : Owned registry inner

/-- What was logged and what the roots would report are together what was
    registered, and no root was released. -/
structure Balanced (registry : Registry) (registered : List Release) : Prop where
  whole : ∀ listener ∈ registry.roots, listener.Whole
  reports : (registry.log ++ Listener.dropAll registry.roots).Perm registered

theorem owned_of_mem_roots {registry : Registry} {listener : Listener}
    (h : listener ∈ registry.roots) : Owned registry listener := by
  rcases mem_roots.mp h with ⟨slot, hs⟩ | ⟨place, scope, hs, hl⟩
  · exact .caller hs
  · exact .scope hs hl

end Registry

theorem dropAll_perm {some others : List Listener} (h : some.Perm others) :
    (Listener.dropAll some).Perm (Listener.dropAll others) := by
  rw [Listener.dropAll_eq_flatMap, Listener.dropAll_eq_flatMap]
  exact h.flatMap_right _

theorem dropAll_append (some others : List Listener) :
    Listener.dropAll (some ++ others) = Listener.dropAll some ++ Listener.dropAll others := by
  simp only [Listener.dropAll_eq_flatMap, List.flatMap_append]

namespace Registry

/-- An operation adds to both sides what it registers. -/
theorem step_balanced {act : Act} {before after : Registry} {registered : List Release}
    (hstep : Step act before after) (h : Balanced before registered) :
    Balanced after (registered ++ acquired before.slots.length [act]) := by
  cases hstep with
  | @acquires label held others hact hbefore hafter hlog hslots =>
      have hheld := dropAll_perm hbefore
      have hmade := dropAll_perm hafter
      rw [dropAll_append] at hheld
      rw [Listener.dropAll, Listener.drop] at hmade
      refine ⟨?_, ?_⟩
      -- The new listener holds roots, which are whole, so it is whole itself.
      · intro listener hl
        have hwhole : ∀ l ∈ held ++ others, l.Whole :=
          fun l hl => h.whole l (hbefore.symm.subset hl)
        rcases List.mem_cons.mp (hafter.subset hl) with rfl | hl
        · exact .mk fun l hl => hwhole l (List.mem_append_left _ hl)
        · exact hwhole listener (List.mem_append_right _ hl)
      · rw [List.perm_iff_count]
        intro report
        -- The listeners it took over are reported behind it, as they were before.
        have h1 := h.reports.count_eq report
        have h2 := hheld.count_eq report
        have h3 := hmade.count_eq report
        simp only [acquired, hact, hlog, List.count_append, List.count_cons, List.count_nil,
          List.cons_append] at h1 h2 h3 ⊢
        omega
  | gives given hact hroots hlog hslots =>
      refine ⟨fun listener hl => h.whole listener (hroots.symm.subset
        (List.mem_append_right _ hl)), ?_⟩
      -- What is logged is what the given roots would have reported.
      have hgiven := dropAll_perm hroots
      rw [dropAll_append] at hgiven
      rw [hlog, List.append_assoc]
      simp only [acquired, hact, List.append_nil]
      exact (hgiven.symm.append_left _).trans h.reports

theorem acquired_cons (act : Act) (acts : List Act) (registry : Registry) :
    acquired registry.slots.length (act :: acts) =
      acquired registry.slots.length [act] ++ acquired (registry.step act).2.slots.length acts := by
  -- Only an operation that registers moves on to the next number.
  cases step_roots act registry with
  | acquires _ _ hact _ _ _ hslots =>
      simp only [acquired, hact, hslots, List.cons_append, List.nil_append]
  | gives _ hact _ _ hslots => simp only [acquired, hact, hslots, List.nil_append]

/-- A run keeps the balance, whatever its operations are. -/
theorem run_balanced (acts : List Act) {registry : Registry} {registered : List Release}
    (h : Balanced registry registered) :
    Balanced (run acts registry) (registered ++ acquired registry.slots.length acts) := by
  induction acts generalizing registry registered with
  | nil =>
      rw [acquired, List.append_nil]
      exact h
  | cons act acts ih =>
      rw [acquired_cons, ← List.append_assoc]
      exact ih (step_balanced (step_roots act registry) h)

theorem balanced_empty : Balanced {} [] :=
  ⟨fun _ hl => absurd hl List.not_mem_nil, List.Perm.refl _⟩

/-- No report is both in the log and still to come. -/
theorem count_log_of_mem_drop {registry : Registry} {n : Nat} {acts : List Act}
    (h : Balanced registry (acquired n acts)) {report : Release}
    (hr : report ∈ Listener.dropAll registry.roots) : registry.log.count report = 0 := by
  -- Nothing stands twice in all that was registered, so nothing stands on both sides.
  have hnodup := h.reports.nodup_iff.mpr (acquired_nodup n acts)
  refine List.count_eq_zero.mpr ?_
  intro hl
  exact (List.disjoint_of_nodup_append hnodup) hl hr

mutual

/-- Each step inwards goes through a listener whose own report is still to
    come. The recursion is that of `Listener.drop`. -/
theorem owned_of_mem_drop {registry : Registry} {report : Release} :
    ∀ (listener : Listener), listener.Whole → Owned registry listener →
      (∀ r ∈ listener.drop, registry.log.count r = 0) → report ∈ listener.drop →
      ∃ owned, Owned registry owned ∧ owned.report = report
  | .mk serial label none, hw, _, _, _ => by cases hw
  | .mk serial label (some held), hw, ho, hc, hr => by
      rw [Listener.drop] at hc hr
      rcases List.mem_cons.mp hr with rfl | hr
      · exact ⟨_, ho, rfl⟩
      · have hself := hc _ List.mem_cons_self
        exact owned_of_mem_dropAll held (fun l hl => Listener.whole_of_held hw hl)
          (fun l hl => .closure ho hself hl) (fun r hr => hc r (List.mem_cons_of_mem _ hr)) hr

theorem owned_of_mem_dropAll {registry : Registry} {report : Release} :
    ∀ (listeners : List Listener), (∀ l ∈ listeners, l.Whole) →
      (∀ l ∈ listeners, Owned registry l) →
      (∀ r ∈ Listener.dropAll listeners, registry.log.count r = 0) →
      report ∈ Listener.dropAll listeners →
      ∃ owned, Owned registry owned ∧ owned.report = report
  | [], _, _, _, hr => by simp only [Listener.dropAll, List.not_mem_nil] at hr
  | listener :: listeners, hw, ho, hc, hr => by
      rw [Listener.dropAll] at hc hr
      rcases List.mem_append.mp hr with hr | hr
      · exact owned_of_mem_drop listener (hw _ List.mem_cons_self) (ho _ List.mem_cons_self)
          (fun r hr => hc r (List.mem_append_left _ hr)) hr
      · exact owned_of_mem_dropAll listeners (fun l hl => hw l (List.mem_cons_of_mem _ hl))
          (fun l hl => ho l (List.mem_cons_of_mem _ hl))
          (fun r hr => hc r (List.mem_append_right _ hr)) hr

end

/-- What is owned was not released, and the roots would report it. -/
theorem whole_of_owned {registry : Registry} {registered : List Release}
    (h : Balanced registry registered) {listener : Listener} (ho : Owned registry listener) :
    listener.Whole ∧ listener.drop ⊆ Listener.dropAll registry.roots := by
  have root : ∀ l ∈ registry.roots, l.Whole ∧ l.drop ⊆ Listener.dropAll registry.roots := by
    intro l hl
    refine ⟨h.whole l hl, ?_⟩
    intro r hr
    rw [Listener.dropAll_eq_flatMap]
    exact List.mem_flatMap.mpr ⟨l, hl, hr⟩
  -- A listener in a closure is reported by the one that holds it.
  induction ho with
  | caller hs => exact root _ (mem_roots.mpr (.inl ⟨_, hs⟩))
  | scope hs hl => exact root _ (mem_roots.mpr (.inr ⟨_, _, hs, hl⟩))
  | closure _ _ hi ih =>
      refine ⟨Listener.whole_of_held ih.1 hi, ?_⟩
      intro r hr
      exact ih.2 (Listener.drop_subset_of_held ih.1 hi hr)

/-- What is reported next is exactly what is owned. -/
theorem mem_dropAll_roots_iff {registry : Registry} {n : Nat} {acts : List Act}
    (h : Balanced registry (acquired n acts)) {report : Release} :
    report ∈ Listener.dropAll registry.roots ↔
      ∃ owned, Owned registry owned ∧ owned.report = report := by
  constructor
  · intro hr
    exact owned_of_mem_dropAll registry.roots h.whole (fun _ => owned_of_mem_roots)
      (fun _ => count_log_of_mem_drop h) hr
  · rintro ⟨owned, ho, rfl⟩
    rcases whole_of_owned h ho with ⟨hw, hs⟩
    exact hs (Listener.report_mem_drop hw)

/-- At the end of any run, and so at every point of one, a listener that was
    registered was released at most once, and was not released exactly while
    it is owned by a caller, by a scope or by the closure of a listener that
    was not released. Once everything that is still owned is dropped as well,
    it was released exactly once. -/
theorem run_releases_once (acts : List Act) :
    ∀ report ∈ acquired 0 acts,
      ((run acts {}).log.count report ≤ 1 ∧
        ((run acts {}).log.count report = 0 ↔
          ∃ owned, Owned (run acts {}) owned ∧ owned.report = report)) ∧
      ((run acts {}).log ++ (run acts {}).finish).count report = 1 := by
  intro report hr
  have h : Balanced (run acts {}) (acquired 0 acts) := run_balanced acts balanced_empty
  -- Registered once, it stands once on the other side of the balance.
  have hone := h.reports.count_eq report
  rw [List.count_eq_one_of_mem (acquired_nodup 0 acts) hr, List.count_append] at hone
  refine ⟨⟨by omega, ?_⟩, ?_⟩
  · rw [← mem_dropAll_roots_iff h, ← List.count_pos_iff]
    omega
  · rw [List.count_append, (finish_perm (run acts {})).count_eq report]
    exact hone

/-- The first listener moves into the closure of the second, which moves into
    a scope; the third is given back by name. -/
theorem run_releases_once_nested :
    let acts : List Act :=
      [.acquire "resize" [], .acquire "keydown" [0], .openScope, .push 0 1,
        .acquire "color-scheme" [], .release 2]
    ⟨0, "resize"⟩ ∈ acquired 0 acts ∧
      ((run acts {}).log.count ⟨0, "resize"⟩ ≤ 1 ∧
        ((run acts {}).log.count ⟨0, "resize"⟩ = 0 ↔
          ∃ owned, Owned (run acts {}) owned ∧ owned.report = ⟨0, "resize"⟩)) ∧
      ((run acts {}).log ++ (run acts {}).finish).count ⟨0, "resize"⟩ = 1 :=
  ⟨by decide, run_releases_once _ _ (by decide)⟩

end Registry

end DashKit
