import DashKit.Reactive.Session

/-!
# Runs of a Session

What a context is after some commands, and which signals were notified on the
way.

A context is provided once and never moves: commands may add others behind it,
enter and leave owners around it and change the world below it, but only one
kind of command can change it, and only if it names its place. This holds of
designs and of sidebars alike, so a context is taken here with its `Kind`.
`step_context` says that all commands leave it alone that do not have it as
their target, `step_choose` and `step_act` what the others do. What is proved of
a run goes through these and unfolds no command.

Readings are told apart by the signals they depend on. A reading is run again
if one of these was notified, once or several times over; `mem_rerun` says so
for the signals of a whole run as for those of one command.

## Main definitions

* `Kind`: Designs and sidebars, with `Kind.contexts` for those of a session.
* `Command.target?`: The context that a command changes.
* `Session.run`: Some commands, one after the other.
* `Session.notified`: The signals they notify, in order.

## Theorems

* `mem_rerun`: A reading is run again by the signals it depends on.
* `run_append`: A run in two parts.
* `run_added`: What each command adds, a run adds in order.
* `step_choose`, `step_act`, `step_act_eq`: The commands that change a context.
* `step_context`, `run_context`: All others leave it alone.
-/

namespace DashKit

/-! ## Readings That Are Run Again -/

section Rerun

variable {ρ : Type} {all : List ρ} {tracked : ρ → List Signal}

/-- The readings that are run again are those that depend on a signal that was
    notified. -/
theorem mem_rerun {reader : ρ} {notified : List Signal} (hall : reader ∈ all) :
    reader ∈ all.filter (fun reader => (tracked reader).any (· ∈ notified)) ↔
      ∃ signal ∈ tracked reader, signal ∈ notified := by
  rw [List.mem_filter, List.any_eq_true]
  simp only [hall, decide_eq_true_eq, true_and]

/-- Where nothing was notified, nothing is run again. -/
theorem rerun_nil : all.filter (fun reader => (tracked reader).any (· ∈ [])) = [] := by
  rw [List.filter_eq_nil_iff]
  intro reader _ hany
  rcases List.any_eq_true.mp hany with ⟨signal, _, hsignal⟩
  exact List.not_mem_nil (of_decide_eq_true hsignal)

end Rerun

theorem DesignReader.mem_woken {reader : DesignReader} {place : Nat} {notified : List Signal} :
    reader ∈ woken place notified ↔ ∃ signal ∈ reader.tracked place, signal ∈ notified :=
  mem_rerun (by cases reader <;> decide)

theorem SidebarReader.mem_woken {reader : SidebarReader} {place : Nat} {notified : List Signal} :
    reader ∈ woken place notified ↔ ∃ signal ∈ reader.tracked place, signal ∈ notified :=
  mem_rerun (by cases reader <;> decide)

/-! ## Contexts by Kind -/

/-- The kinds of context that have a place. -/
inductive Kind
  | design
  | sidebar
  deriving DecidableEq, Repr

namespace Kind

/-- A context of a kind. -/
abbrev Context (σ : Type) : Kind → Type
  | design => DesignContext σ
  | sidebar => SidebarContext σ

/-- The contexts of a kind, by their places. -/
def contexts {σ : Type} : (kind : Kind) → Session σ → List (kind.Context σ)
  | design, session => session.designs
  | sidebar, session => session.sidebars

end Kind

namespace Command

variable {σ : Type} {command : Command σ} {place : Nat}

/-- The context that a command changes, by its kind and its place. -/
def target? : Command σ → Option (Kind × Nat)
  | .choose place _ => some (.design, place)
  | .act place _ => some (.sidebar, place)
  | _ => none

theorem target?_eq_design (h : command.target? = some (.design, place)) :
    ∃ choice, command = .choose place choice := by
  cases command with
  | choose other choice =>
      simp only [target?, Option.some.injEq, Prod.mk.injEq, true_and] at h
      exact ⟨choice, by rw [h]⟩
  | _ => simp only [target?, Option.some.injEq, Prod.mk.injEq, reduceCtorEq, false_and] at h

theorem target?_eq_sidebar (h : command.target? = some (.sidebar, place)) :
    ∃ action, command = .act place action := by
  cases command with
  | act other action =>
      simp only [target?, Option.some.injEq, Prod.mk.injEq, true_and] at h
      exact ⟨action, by rw [h]⟩
  | _ => simp only [target?, Option.some.injEq, Prod.mk.injEq, reduceCtorEq, false_and] at h

end Command

/-! ## Runs -/

namespace Session

variable {σ : Type}

/-- The session after some commands, one after the other. -/
def run : List (Command σ) → Session σ → Session σ
  | [], session => session
  | command :: commands, session => run commands (step command session).2

/-- The signals that some commands notify, in order. -/
def notified : List (Command σ) → Session σ → List Signal
  | [], _ => []
  | command :: commands, session =>
      (step command session).1.notified ++ notified commands (step command session).2

theorem run_append (before after : List (Command σ)) (session : Session σ) :
    run (before ++ after) session = run after (run before session) := by
  induction before generalizing session with
  | nil => rfl
  | cons command before ih => exact ih (step command session).2

/-- What every command adds to something that is seen of a session, a run adds
    in order. -/
theorem run_added {β : Type} (seen : Session σ → List β) {added? : Command σ → Option β}
    (hstep : ∀ command session,
      seen (step command session).2 = seen session ++ (added? command).toList)
    (commands : List (Command σ)) (session : Session σ) :
    seen (run commands session) = seen session ++ commands.filterMap added? := by
  induction commands generalizing session with
  | nil => exact (List.append_nil _).symm
  | cons command commands ih =>
      -- The first command adds in front of what the others add.
      have hrest := ih (step command session).2
      rw [hstep, List.append_assoc] at hrest
      rw [run, hrest, List.filterMap_cons]
      cases added? command <;> rfl

/-- Setting an axis of a design changes that design, and notifies it if the
    axis changed. -/
theorem step_choose (choice : Choice) {session : Session σ} {place : Nat}
    {context : DesignContext σ} (h : session.designs[place]? = some context) :
    (step (.choose place choice) session).2.designs[place]? =
        some { context with preferences := (context.preferences.choose choice).2 } ∧
      (step (.choose place choice) session).1.notified =
        if (context.preferences.choose choice).1 then [.design place] else [] := by
  -- The new context is put where the old one is, and nothing moves.
  have hlt : place < session.designs.length := (List.getElem?_eq_some_iff.mp h).1
  simp only [step, choose, h, List.getElem?_set_self hlt, and_self]

/-- An action on a sidebar has its effect on that sidebar, and notifies it if
    the effect does. -/
theorem step_act (action : Action) {session : Session σ} {place : Nat}
    {context : SidebarContext σ} (h : session.sidebars[place]? = some context) :
    let effect := action.run context.storage context.sidebar session.world
    (step (.act place action) session).2.sidebars[place]? =
        some { context with sidebar := effect.sidebar } ∧
      (step (.act place action) session).1.answer = effect.answer ∧
      (step (.act place action) session).1.notified =
        if effect.notifies then [.sidebar place] else [] := by
  have hlt : place < session.sidebars.length := (List.getElem?_eq_some_iff.mp h).1
  simp only [step, act, h, List.getElem?_set_self hlt, and_self]

/-- An action on a sidebar changes that sidebar and the world, and nothing else
    of a session. -/
theorem step_act_eq (action : Action) {session : Session σ} {place : Nat}
    {context : SidebarContext σ} (h : session.sidebars[place]? = some context) :
    let effect := action.run context.storage context.sidebar session.world
    (step (.act place action) session).2 =
      { session with
        sidebars := session.sidebars.set place { context with sidebar := effect.sidebar }
        world := effect.world } := by
  simp only [step, act, h]

/-- A command leaves a context as it is that is not its target. -/
theorem step_context (kind : Kind) {command : Command σ} {session : Session σ} {place : Nat}
    {context : kind.Context σ} (h : (kind.contexts session)[place]? = some context)
    (hother : command.target? ≠ some (kind, place)) :
    (kind.contexts (step command session).2)[place]? = some context := by
  have hlt : place < (kind.contexts session).length := (List.getElem?_eq_some_iff.mp h).1
  cases command with
  -- A new context stands behind the others of its kind.
  | provideDesign options source =>
      cases kind with
      | design => exact (List.getElem?_append_left hlt).trans h
      | sidebar => exact h
  | provideSidebar options storage =>
      cases kind with
      | design => exact h
      | sidebar => exact (List.getElem?_append_left hlt).trans h
  -- A context that is changed stays in its place, which is another one.
  | choose other choice =>
      simp only [step, choose]
      cases session.designs[other]? with
      | none => exact h
      | some context' =>
          cases kind with
          | design =>
              have hne : other ≠ place := by
                rintro rfl
                exact hother rfl
              exact (List.getElem?_set_ne hne).trans h
          | sidebar => exact h
  | act other action =>
      simp only [step, act]
      cases session.sidebars[other]? with
      | none => exact h
      | some context' =>
          cases kind with
          | design => exact h
          | sidebar =>
              have hne : other ≠ place := by
                rintro rfl
                exact hother rfl
              exact (List.getElem?_set_ne hne).trans h
  | leave =>
      simp only [step]
      cases session.ancestors <;> cases kind <;> exact h
  | _ => cases kind <;> exact h

/-- A context that is the target of no command of a run stays as it is. -/
theorem run_context (kind : Kind) {commands : List (Command σ)} {session : Session σ}
    {place : Nat} {context : kind.Context σ}
    (h : (kind.contexts session)[place]? = some context)
    (hquiet : ∀ command ∈ commands, command.target? ≠ some (kind, place)) :
    (kind.contexts (run commands session))[place]? = some context := by
  induction commands generalizing session with
  | nil => exact h
  | cons command commands ih =>
      have hstep := step_context kind h (hquiet command List.mem_cons_self)
      exact ih hstep fun later hlater => hquiet later (List.mem_cons_of_mem _ hlater)

end Session

end DashKit
