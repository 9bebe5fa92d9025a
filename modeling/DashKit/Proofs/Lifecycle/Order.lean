import DashKit.Proofs.Lifecycle.Conservation

/-!
# The Order of Releases

In which order listeners are given back.

A listener that is given back reports itself and then gives back what it holds,
so the reports of one listener are the preorder of its holding tree. A scope
gives its listeners back from the last to the first. `preorder` is the former as
an equation on trees, and says nothing of listeners that were released already,
while a listener that is dropped must not report if it is spent. The two agree
because nobody owns a spent listener, which is the invariant that the balance of
a run carries.

What a scope has is followed through a run by `pushed`: the listeners that were
pushed since the scope was last emptied, in that order. An operation that pushes
nothing into a scope cannot fill it, so once it was emptied it has nothing to
report until the next push.

Giving a listener back by name and dropping it are one operation as far as the
registry is concerned, so runs that differ only in that are the same run.

## Main definitions

* `Listener.preorder`: The preorder of a holding tree.
* `Registry.content`: What a scope has, if it is still there.
* `Registry.pushed`: What was pushed into a scope since it was last emptied.
* `Registry.reports`: What the operations of a run report.
* `Act.unnamed`: An operation with a drop in place of a release.

## Theorems

* `drop_eq_preorder`: A whole listener reports its holding tree in preorder.
* `takeAll_fst`: A listener holds what it took over, in the given order.
* `content_run`: A scope has what was pushed into it.
* `log_run`: The log of a run is what its operations report.
* `run_unnamed`: It makes no difference whether a listener is released or
  dropped.
* `release_order`: These facts for any run of operations.
-/

namespace DashKit

namespace Listener

/-- The preorder of a holding tree: a listener first, then the preorders of what
    it holds, in the given order. -/
def preorder : Listener → List Release
  | mk serial label none => [⟨serial, label⟩]
  | mk serial label (some held) => ⟨serial, label⟩ :: (held.map preorder).flatten

/-- A whole listener reports its holding tree in preorder. -/
theorem drop_eq_preorder {listener : Listener} (h : Whole listener) :
    listener.drop = listener.preorder := by
  induction h with
  -- What is held is whole as well, and each of it reports its own preorder.
  | mk _ ih =>
      rw [preorder, drop, dropAll_eq_flatMap]
      exact congrArg _ (congrArg List.flatten (List.map_congr_left ih))

end Listener

/-- A scope of whole listeners reports their holding trees in preorder, the
    latest first. -/
theorem ListenerScope.releaseAll_eq_preorder {scope : ListenerScope}
    (h : ∀ listener ∈ scope, listener.Whole) :
    scope.releaseAll = (scope.reverse.map Listener.preorder).flatten := by
  rw [releaseAll_eq, Listener.dropAll_eq_flatMap]
  refine congrArg List.flatten (List.map_congr_left ?_)
  intro listener hl
  exact Listener.drop_eq_preorder (h listener (List.mem_reverse.mp hl))

namespace Act

/-- The operation with a drop in place of a release. -/
def unnamed : Act → Act
  | .release slot => .drop slot
  | act => act

/-- The scope that an operation pushes into, and the slot it pushes from. -/
def pushes? : Act → Option (Nat × Option Nat)
  | .push place slot => some (place, some slot)
  | .pushSome place slot => some (place, slot)
  | _ => none

/-- The operation gives back all that is in a scope. -/
def empties (place : Nat) : Act → Bool
  | .releaseAll emptied | .dropScope emptied => emptied == place
  | _ => false

end Act

namespace Registry

/-- What a scope has. A scope that is gone has nothing. -/
def content (registry : Registry) (place : Nat) : ListenerScope :=
  (registry.scope? place).getD []

/-- What an operation pushes into the scope at a place: the listener of the slot,
    if both are there. -/
def handed (registry : Registry) (place : Nat) (act : Act) : List Listener :=
  match act.pushes? with
  | some (pushed, slot) =>
      if pushed = place ∧ (registry.scope? place).isSome then
        (slot.bind registry.listener?).toList
      else []
  | none => []

/-- What a scope has after some operations, if it had `held` before: what was
    pushed since it was last emptied, in that order. -/
def pushed (place : Nat) : List Act → Registry → List Listener → List Listener
  | [], _, held => held
  | act :: acts, registry, held =>
      pushed place acts (registry.step act).2
        (if act.empties place then [] else held ++ registry.handed place act)

/-- What an operation reports: what the holding trees that it gives back are in
    preorder, those of a scope from the last to the first. -/
def reported (registry : Registry) : Act → List Release
  | .release slot | .drop slot => ((registry.listener? slot).map Listener.preorder).getD []
  | .releaseAll place | .dropScope place =>
      ((registry.content place).reverse.map Listener.preorder).flatten
  | _ => []

/-- What the operations of a run report, one after the other. -/
def reports : List Act → Registry → List Release
  | [], _ => []
  | act :: acts, registry => registry.reported act ++ reports acts (registry.step act).2

/-! ## Scopes -/

theorem scope?_set_self {registry : Registry} {place : Nat} {scope : ListenerScope}
    (h : registry.scope? place = some scope) (content : Option ListenerScope) :
    (registry.scopes.set place content)[place]?.join = content := by
  rw [scope?, Option.join_eq_some_iff] at h
  rw [List.getElem?_set_self (List.getElem?_eq_some_iff.mp h).1, Option.join_some]

/-- A listener that moves into a scope is the last one there. -/
theorem content_move {registry : Registry} {place slot : Nat} {scope : ListenerScope}
    (h : registry.scope? place = some scope) (listener : Listener) (other : Nat) :
    (registry.move place scope slot listener).content other =
      registry.content other ++ if place = other then [listener] else [] := by
  -- Of all scopes only this one has got a listener more.
  by_cases ho : place = other
  · subst ho
    rw [if_pos rfl, content, content, h, scope?, move, scope?_set_self h]
    rfl
  · rw [if_neg ho, List.append_nil, content, content, scope?, scope?, move,
      List.getElem?_set_ne ho]

/-- A scope that gives its listeners back has none, whether or not it stays. -/
theorem content_close {registry : Registry} {place : Nat} {scope : ListenerScope}
    (h : registry.scope? place = some scope) {left : Option ListenerScope}
    (hleft : left.getD [] = []) (log : List Release) (other : Nat) :
    ({ registry with scopes := registry.scopes.set place left, log } : Registry).content other =
      if place = other then [] else registry.content other := by
  by_cases ho : place = other
  · subst ho
    rw [if_pos rfl, content, scope?, scope?_set_self h, hleft]
  · rw [if_neg ho, content, content, scope?, scope?, List.getElem?_set_ne ho]

theorem content_giveBack (registry : Registry) (slot place : Nat)
    (reports : Listener → List Release) :
    (registry.giveBack slot reports).2.content place = registry.content place := by
  unfold giveBack
  split <;> rfl

/-- A new scope has nothing. -/
theorem content_openScope (registry : Registry) (place : Nat) :
    (registry.step .openScope).2.content place = registry.content place := by
  simp only [step, content, scope?]
  -- The place of the new scope is behind all others, where nothing was before.
  rcases Nat.lt_trichotomy place registry.scopes.length with hlt | rfl | hlt
  · rw [List.getElem?_append_left hlt]
  · rw [List.getElem?_concat_length, List.getElem?_eq_none (Nat.le_refl _)]
    rfl
  · rw [List.getElem?_eq_none (Nat.le_of_lt hlt), List.getElem?_eq_none]
    rw [List.length_append, List.length_singleton]
    exact hlt

theorem content_push (registry : Registry) (pushed slot place : Nat) :
    (registry.step (.push pushed slot)).2.content place =
      registry.content place ++ registry.handed place (.push pushed slot) := by
  simp only [step, handed, Act.pushes?, Option.bind_some]
  -- Where the scope is gone, nothing is handed to it and nothing is pushed.
  cases hscope : registry.scope? pushed with
  | none =>
      rw [if_neg, List.append_nil]
      rintro ⟨rfl, hsome⟩
      rw [hscope] at hsome
      exact absurd hsome Bool.false_ne_true
  | some scope =>
      have hif : (pushed = place ∧ (registry.scope? place).isSome) ↔ pushed = place :=
        and_iff_left_of_imp fun h => by rw [← h, hscope, Option.isSome_some]
      simp only [hif]
      cases registry.listener? slot with
      | none => rw [Option.toList_none, ite_self, List.append_nil]
      | some listener => exact content_move hscope listener place

/-- A push of what may not be there is a push, or nothing. -/
theorem step_pushSome (registry : Registry) (pushed : Nat) (slot : Option Nat) :
    (registry.step (.pushSome pushed slot)).2 =
      match slot with
      | some slot => (registry.step (.push pushed slot)).2
      | none => registry := by
  simp only [step]
  cases registry.scope? pushed with
  | none => cases slot <;> rfl
  | some scope =>
      cases slot with
      | none => rfl
      | some slot =>
          simp only [Option.bind_some]
          cases registry.listener? slot <;> rfl

/-- An operation that empties a scope leaves it with nothing, and the others as
    they are. -/
theorem content_empty {act : Act} {emptied : Nat}
    (hact : act = .releaseAll emptied ∨ act = .dropScope emptied) (registry : Registry)
    (place : Nat) :
    (registry.step act).2.content place =
      if emptied = place then [] else registry.content place := by
  -- A scope that is gone has nothing already.
  cases h : registry.scope? emptied with
  | none =>
      have hstep : (registry.step act).2 = registry := by
        rcases hact with rfl | rfl <;> simp only [step, h]
      rw [hstep]
      split
      · next hplace => rw [← hplace, content, h, Option.getD_none]
      · rfl
  | some scope =>
      rcases hact with rfl | rfl <;> simp only [step, h] <;> exact content_close h rfl _ place

/-- After an operation a scope has nothing if it was emptied, and else what it
    had and what was pushed into it. -/
theorem content_step (act : Act) (registry : Registry) (place : Nat) :
    (registry.step act).2.content place =
      if act.empties place then [] else registry.content place ++ registry.handed place act := by
  cases act with
  | acquire label holds => exact (List.append_nil _).symm
  | openScope => exact (content_openScope registry place).trans (List.append_nil _).symm
  | release slot => exact (content_giveBack registry slot place _).trans (List.append_nil _).symm
  | drop slot => exact (content_giveBack registry slot place _).trans (List.append_nil _).symm
  | push pushed slot => exact content_push registry pushed slot place
  | pushSome pushed slot =>
      rw [step_pushSome]
      cases slot with
      | some slot => exact content_push registry pushed slot place
      | none => simp [handed, Act.pushes?, Act.empties]
  | releaseAll emptied =>
      rw [content_empty (Or.inl rfl)]
      simp only [Act.empties, beq_iff_eq, handed, Act.pushes?, List.append_nil]
  | dropScope emptied =>
      rw [content_empty (Or.inr rfl)]
      simp only [Act.empties, beq_iff_eq, handed, Act.pushes?, List.append_nil]

/-- A scope has what was pushed into it since it was last emptied. -/
theorem content_run (acts : List Act) (registry : Registry) (place : Nat) :
    (run acts registry).content place = pushed place acts registry (registry.content place) := by
  induction acts generalizing registry with
  | nil => rfl
  | cons act acts ih => rw [pushed, ← content_step, ← ih]; rfl

/-- A scope that has nothing has nothing until something is pushed into it. -/
theorem content_run_of_nil {acts : List Act} {registry : Registry} {place : Nat}
    (hnone : ∀ act ∈ acts, ∀ pushed slot, act.pushes? = some (pushed, slot) → pushed ≠ place)
    (h : registry.content place = []) : (run acts registry).content place = [] := by
  induction acts generalizing registry with
  | nil => exact h
  | cons act acts ih =>
      rw [List.forall_mem_cons] at hnone
      refine ih hnone.2 ?_
      -- The operation pushes into other scopes only.
      have hhanded : registry.handed place act = [] := by
        unfold handed
        split
        · next pushed slot hp => exact if_neg fun hc => hnone.1 pushed slot hp hc.1
        · rfl
      rw [content_step, h, hhanded, List.append_nil, ite_self]

/-! ## Holding Trees -/

/-- The listeners of different slots are taken in the order of the slots. -/
theorem takeAll_fst (slots : List (Option Listener)) {holds : List Nat} (h : holds.Nodup) :
    (takeAll slots holds).1 = holds.filterMap fun slot => slots[slot]?.join := by
  induction holds generalizing slots with
  | nil => rfl
  | cons slot holds ih =>
      rcases List.nodup_cons.mp h with ⟨hnew, hrest⟩
      -- A slot that was emptied is not asked for again, as the slots differ.
      have hothers : (holds.filterMap fun other => (slots.set slot none)[other]?.join) =
          holds.filterMap fun other => slots[other]?.join := by
        refine List.filterMap_congr ?_
        intro other hother
        have hne : slot ≠ other := fun he => hnew (by rwa [he])
        rw [List.getElem?_set_ne hne]
      simp only [takeAll]
      rw [ih (slots.set slot none) hrest, hothers]
      rw [List.filterMap_cons]
      cases slots[slot]?.join <;> rfl

/-- A new listener holds the listeners of the slots it was given, in the given
    order. -/
theorem held_step_acquire (registry : Registry) (label : String) {holds : List Nat}
    (h : holds.Nodup) :
    ∃ listener,
      (registry.step (.acquire label holds)).2.listener? registry.slots.length = some listener ∧
      listener.report = ⟨registry.slots.length, label⟩ ∧
      listener.held = holds.filterMap registry.listener? := by
  refine ⟨.mk registry.slots.length label (some (takeAll registry.slots holds).1), ?_, rfl, ?_⟩
  · have hlength := takeAll_length registry.slots holds
    simp only [step, listener?]
    rw [← hlength, List.getElem?_concat_length, Option.join_some]
  · exact takeAll_fst registry.slots h

/-! ## The Log -/

theorem whole_of_listener? {registry : Registry} (h : ∀ listener ∈ registry.roots, listener.Whole)
    {slot : Nat} {listener : Listener} (hslot : registry.listener? slot = some listener) :
    listener.Whole :=
  h listener (mem_roots.mpr (Or.inl ⟨slot, hslot⟩))

theorem whole_of_scope? {registry : Registry} (h : ∀ listener ∈ registry.roots, listener.Whole)
    {place : Nat} {scope : ListenerScope} (hscope : registry.scope? place = some scope) :
    ∀ listener ∈ scope, listener.Whole :=
  fun listener hl => h listener (mem_roots.mpr (Or.inr ⟨place, scope, hscope, hl⟩))

theorem log_giveBack {registry : Registry} (h : ∀ listener ∈ registry.roots, listener.Whole)
    (slot : Nat) {reports : Listener → List Release}
    (hreports : ∀ listener, reports listener = listener.drop) :
    (registry.giveBack slot reports).2.log =
      registry.log ++ ((registry.listener? slot).map Listener.preorder).getD [] := by
  unfold giveBack
  cases hslot : registry.listener? slot with
  | none => exact (List.append_nil _).symm
  | some listener =>
      simp only [Option.map_some, Option.getD_some]
      -- A listener in a slot is whole, so dropping it reports its whole tree.
      rw [hreports, Listener.drop_eq_preorder (whole_of_listener? h hslot)]

theorem log_push (registry : Registry) (place slot : Nat) :
    (registry.step (.push place slot)).2.log = registry.log := by
  simp only [step]
  split
  · rfl
  · split <;> rfl

theorem log_empty {act : Act} {place : Nat}
    (hact : act = .releaseAll place ∨ act = .dropScope place) {registry : Registry}
    (h : ∀ listener ∈ registry.roots, listener.Whole) :
    (registry.step act).2.log =
      registry.log ++ ((registry.content place).reverse.map Listener.preorder).flatten := by
  cases hscope : registry.scope? place with
  | none =>
      have hstep : (registry.step act).2 = registry := by
        rcases hact with rfl | rfl <;> simp only [step, hscope]
      rw [hstep, content, hscope]
      exact (List.append_nil _).symm
  | some scope =>
      have hlog : (registry.step act).2.log = registry.log ++ scope.releaseAll := by
        rcases hact with rfl | rfl <;> simp only [step, hscope]
      rw [hlog, content, hscope, Option.getD_some,
        ListenerScope.releaseAll_eq_preorder (whole_of_scope? h hscope)]

/-- An operation adds to the log what it reports. -/
theorem log_step (act : Act) {registry : Registry}
    (h : ∀ listener ∈ registry.roots, listener.Whole) :
    (registry.step act).2.log = registry.log ++ registry.reported act := by
  cases act with
  | acquire label holds => exact (List.append_nil _).symm
  | openScope => exact (List.append_nil _).symm
  | release slot => exact log_giveBack h slot Listener.release_eq_drop
  | drop slot => exact log_giveBack h slot fun _ => rfl
  | push place slot => exact (log_push registry place slot).trans (List.append_nil _).symm
  | pushSome place slot =>
      rw [step_pushSome]
      cases slot with
      | none => exact (List.append_nil _).symm
      | some slot => exact (log_push registry place slot).trans (List.append_nil _).symm
  | releaseAll place => exact log_empty (Or.inl rfl) h
  | dropScope place => exact log_empty (Or.inr rfl) h

/-- The log of a run is what its operations report, one after the other. -/
theorem log_run (acts : List Act) {registry : Registry} {registered : List Release}
    (h : Balanced registry registered) :
    (run acts registry).log = registry.log ++ reports acts registry := by
  induction acts generalizing registry registered with
  | nil => exact (List.append_nil _).symm
  | cons act acts ih =>
      -- The registry stays balanced, so the listeners of the next step are whole too.
      have hrest := ih (step_balanced (step_roots act registry) h)
      rw [log_step act h.whole, List.append_assoc] at hrest
      exact hrest

/-! ## Release and Drop -/

/-- Giving a listener back by name does what dropping it does. -/
theorem step_unnamed (act : Act) (registry : Registry) :
    registry.step act.unnamed = registry.step act := by
  cases act with
  | release slot => simp only [Act.unnamed, step, funext Listener.release_eq_drop]
  | _ => rfl

theorem run_unnamed (acts : List Act) (registry : Registry) :
    run (acts.map Act.unnamed) registry = run acts registry := by
  simp only [run, List.foldl_map, step_unnamed]

/-- For any run of operations:

    * Its log is what its operations report one after the other: a listener that
      is given back reports its holding tree in preorder.
    * A listener holds the listeners of the slots it was registered with, in the
      given order.
    * A scope has what was pushed into it since it was last emptied, in that
      order. Releasing all of it and dropping it log the same: the preorders of
      the holding trees of its listeners, from the last to the first. It is left
      empty, or it is gone. However the run goes on, as long as nothing is pushed
      into that scope, releasing all of it or dropping it logs nothing.
    * A run that differs only in whether listeners are released or dropped leaves
      the same registry, and with it the same log. -/
theorem release_order (acts : List Act) :
    let registry := run acts {}
    registry.log = reports acts {} ∧
    (∀ label holds, holds.Nodup → ∃ listener,
      (registry.step (.acquire label holds)).2.listener? registry.slots.length = some listener ∧
      listener.report = ⟨registry.slots.length, label⟩ ∧
      listener.held = holds.filterMap registry.listener?) ∧
    (∀ place scope, registry.scope? place = some scope →
      scope = pushed place acts {} [] ∧
      ∀ act left, (act = .releaseAll place ∧ left = some []) ∨
          (act = .dropScope place ∧ left = none) →
        let emptied := (registry.step act).2
        emptied.log = registry.log ++ (scope.reverse.map Listener.preorder).flatten ∧
        emptied.scope? place = left ∧
        ∀ later again,
          (∀ act ∈ later, ∀ other slot, act.pushes? = some (other, slot) → other ≠ place) →
          (again = .releaseAll place ∨ again = .dropScope place) →
          ((run later emptied).step again).2.log = (run later emptied).log) ∧
    ∀ acts', acts'.map Act.unnamed = acts.map Act.unnamed → run acts' {} = registry := by
  intro registry
  have hbalanced : Balanced registry (acquired 0 acts) := run_balanced acts balanced_empty
  refine ⟨log_run acts balanced_empty, fun label holds => held_step_acquire registry label,
    fun place scope hscope => ⟨?_, ?_⟩, ?_⟩
  -- At the start no scope has anything.
  · have hcontent := content_run acts {} place
    rwa [show (run acts {}).content place = scope by rw [content, hscope, Option.getD_some]]
      at hcontent
  · intro act left hact
    have hempties : act = .releaseAll place ∨ act = .dropScope place :=
      hact.imp And.left And.left
    have hlog := log_empty hempties hbalanced.whole
    rw [content, hscope, Option.getD_some] at hlog
    refine ⟨hlog, ?_, ?_⟩
    · rcases hact with ⟨rfl, rfl⟩ | ⟨rfl, rfl⟩ <;> simp only [step, hscope] <;>
        exact scope?_set_self hscope _
    -- Nothing was pushed into the scope since, so there is nothing left to report.
    · intro later again hlater hagain
      have hafter := step_balanced (step_roots act registry) hbalanced
      have hnone : (run later (registry.step act).2).content place = [] :=
        content_run_of_nil hlater ((content_empty hempties registry place).trans (if_pos rfl))
      rw [log_empty hagain (run_balanced later hafter).whole, hnone]
      exact List.append_nil _
  -- Both runs are the run without the names.
  · intro acts' hacts
    rw [← run_unnamed, hacts, run_unnamed]

/-- The first two listeners move into the third in the other order, which moves
    into a scope before the fourth does. -/
theorem release_order_nested :
    let acts : List Act :=
      [.acquire "resize" [], .acquire "keydown" [], .acquire "provider" [1, 0],
        .acquire "color-scheme" [], .openScope, .push 0 2, .pushSome 0 (some 3)]
    let registry := run acts {}
    let dropped := (registry.step (.dropScope 0)).2
    (∃ scope, registry.scope? 0 = some scope ∧ scope = pushed 0 acts {} [] ∧
      dropped.log = registry.log ++ (scope.reverse.map Listener.preorder).flatten) ∧
    dropped.log.map Release.label = ["color-scheme", "provider", "keydown", "resize"] ∧
    ((run [.release 3] dropped).step (.releaseAll 0)).2.log = (run [.release 3] dropped).log ∧
    run (acts ++ [.drop 3]) {} = run (acts ++ [.release 3]) {} := by
  intro acts registry dropped
  rcases release_order acts with ⟨_, _, hscopes, _⟩
  have hscope : registry.scope? 0 = some (registry.content 0) := rfl
  rcases hscopes 0 _ hscope with ⟨hpushed, hemptied⟩
  rcases hemptied (.dropScope 0) none (Or.inr ⟨rfl, rfl⟩) with ⟨hlog, _, hlater⟩
  refine ⟨⟨_, hscope, hpushed, hlog⟩, by decide, ?_, ?_⟩
  · refine hlater [.release 3] (.releaseAll 0) ?_ (Or.inl rfl)
    intro act hact
    cases List.mem_singleton.mp hact
    exact fun other slot h => absurd h.symm (Option.some_ne_none _)
  · exact (release_order (acts ++ [.release 3])).2.2.2 _ rfl

end Registry

end DashKit
