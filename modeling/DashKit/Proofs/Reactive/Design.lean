import DashKit.Proofs.Reactive.Run

/-!
# Fresh Readings of a Design

Whoever reads a design is run again before what was read is out of date.

A reading depends on the preferences of the design and, where it shows the
scheme, on the host as well. The preferences are behind a signal that every
change of them notifies. The host is not: it may change its mind at any time
and tells nobody, and a design only learns of it when it is told. So a reading
can be relied upon as long as the design is told of every change sooner or
later, and `Heralded` is that condition on a run.

Nothing is run again for no reason. Setting an axis to the member it has
notifies nothing, and being told of the host runs only the readings again that
show the scheme, whether or not the host has changed.

## Main definitions

* `Session.reading?`: What a reading of a design gives at a point of a run.
* `Session.prefersDark?`: The host's preference at that point.
* `Session.Heralded`: A design is told of the changes of its host.
* `Preferences.current`: The choices that change nothing.

## Theorems

* `run_design`: Preferences change only with their signal.
* `prefersDark?_run`: The host changes only with a herald.
* `woken_of_reading?_ne`: A reading that differs was run again.
* `design_never_stale`: This for any two points of a run, and what is not run
  again.
-/

namespace DashKit

/-- The choices that set an axis to the member it has. -/
def Preferences.current (p : Preferences) : List Choice :=
  [.theme p.theme, .density p.density, .radius p.radius]

theorem Preferences.choose_current {p : Preferences} {choice : Choice} (h : choice ∈ p.current) :
    (p.choose choice).1 = false := by
  simp only [current, List.mem_cons, List.not_mem_nil, or_false] at h
  rcases h with rfl | rfl | rfl <;> simp only [choose, bne_self_eq_false]

/-- What a reading gives depends on the preferences and, if it is run again
    for the host, on the answer of the host. -/
theorem DesignReader.read_congr {σ : Type} {reader : DesignReader} {place : Nat}
    {before after : DesignContext σ} {world world' : σ}
    (hpreferences : after.preferences = before.preferences)
    (hhost : .host place ∈ reader.tracked place →
      (after.source.prefersDark world').1 = (before.source.prefersDark world).1) :
    (reader.read after world').1 = (reader.read before world).1 := by
  -- Two of the readings track the host; for the others there is nothing to ask of it.
  have hmem : Signal.host place ∈ [Signal.host place, Signal.design place] := List.mem_cons_self
  cases reader with
  | scheme =>
      simp only [read, Preferences.scheme_fst, hpreferences, hhost hmem]
  | attributes =>
      simp only [read, Preferences.attributes_fst, hpreferences, hhost hmem]
  | _ => simp only [read, hpreferences]

namespace Session

variable {σ : Type} {place : Nat}

/-- What a reading of a design gives now. -/
def reading? (reader : DesignReader) (place : Nat) (session : Session σ) : Option DesignReading :=
  session.designs[place]?.map fun context => (reader.read context session.world).1

/-- Whether the host of a design prefers dark colors now. -/
def prefersDark? (place : Nat) (session : Session σ) : Option Bool :=
  session.designs[place]?.map fun context => (context.source.prefersDark session.world).1

/-- A design is told of every change of its host before the run is over. Once
    is enough for several changes. -/
def Heralded (place : Nat) : List (Command σ) → Session σ → Prop
  | [], _ => True
  | command :: commands, session =>
      (prefersDark? place (step command session).2 ≠ prefersDark? place session →
        Command.hostChanged place ∈ commands) ∧
      Heralded place commands (step command session).2

/-- A design stays where it is and keeps its host, and its preferences change
    only if its signal is notified. -/
theorem run_design (commands : List (Command σ)) {session : Session σ}
    {context : DesignContext σ} (h : session.designs[place]? = some context) :
    ∃ now, (run commands session).designs[place]? = some now ∧ now.source = context.source ∧
      (.design place ∉ notified commands session → now.preferences = context.preferences) := by
  induction commands generalizing session context with
  | nil => exact ⟨context, h, rfl, fun _ => rfl⟩
  | cons command commands ih =>
      rw [notified, List.mem_append, not_or]
      -- Only a choice for this very design can change its preferences.
      by_cases htarget : command.target? = some (.design, place)
      · rcases Command.target?_eq_design htarget with ⟨choice, rfl⟩
        rcases step_choose choice h with ⟨hstep, hnotified⟩
        rcases ih hstep with ⟨now, hnow, hsource, hsame⟩
        refine ⟨now, hnow, hsource, fun hquiet => (hsame hquiet.2).trans ?_⟩
        -- A choice that notifies nothing changes nothing.
        refine Preferences.choose_unchanged (Bool.eq_false_iff.mpr ?_)
        intro hchanged
        rw [hnotified, if_pos hchanged] at hquiet
        exact hquiet.1 List.mem_cons_self
      · have hstep : (step command session).2.designs[place]? = some context :=
          step_context .design h htarget
        rcases ih hstep with ⟨now, hnow, hsource, hsame⟩
        exact ⟨now, hnow, hsource, fun hquiet => hsame hquiet.2⟩

theorem mem_notified_of_hostChanged {commands : List (Command σ)}
    (h : .hostChanged place ∈ commands) (session : Session σ) :
    .host place ∈ notified commands session := by
  induction commands generalizing session with
  | nil => exact absurd h List.not_mem_nil
  | cons command commands ih =>
      rw [notified, List.mem_append]
      rcases List.mem_cons.mp h with rfl | h
      · exact Or.inl List.mem_cons_self
      · exact Or.inr (ih h (step command session).2)

/-- A host whose changes are told has not changed if nothing was told. -/
theorem prefersDark?_run {commands : List (Command σ)} {session : Session σ}
    (h : Heralded place commands session) (hquiet : .hostChanged place ∉ commands) :
    prefersDark? place (run commands session) = prefersDark? place session := by
  induction commands generalizing session with
  | nil => rfl
  | cons command commands ih =>
      have hrest : Command.hostChanged place ∉ commands :=
        fun hm => hquiet (List.mem_cons_of_mem _ hm)
      -- A change at this step would have to be told later on, and nothing is told.
      have hstep : prefersDark? place (step command session).2 = prefersDark? place session :=
        Decidable.byContradiction fun hne => hrest (h.1 hne)
      exact (ih h.2 hrest).trans hstep

/-- A reading that gives something else after a run was run again on the way,
    if the design was told of its host. -/
theorem woken_of_reading?_ne {commands : List (Command σ)} {session : Session σ}
    {context : DesignContext σ} {reader : DesignReader}
    (hcontext : session.designs[place]? = some context)
    (hheralded : Heralded place commands session)
    (hne : reading? reader place (run commands session) ≠ reading? reader place session) :
    reader ∈ DesignReader.woken place (notified commands session) := by
  rw [DesignReader.mem_woken]
  refine Classical.byContradiction ?_
  intro hnone
  -- Suppose not: none of the signals that the reading depends on was notified.
  have hquiet : ∀ signal ∈ reader.tracked place, signal ∉ notified commands session :=
    fun signal hs hm => hnone ⟨signal, hs, hm⟩
  -- Every reading tracks its design, so the preferences are what they were.
  have hdesign : Signal.design place ∈ reader.tracked place := by
    cases reader <;> simp only [DesignReader.tracked, List.mem_cons, or_true, List.not_mem_nil,
      or_false]
  rcases run_design commands hcontext with ⟨now, hnow, _, hsame⟩
  -- And the host answers what it did, for the readings that track it.
  have hhost : .host place ∈ reader.tracked place →
      (now.source.prefersDark (run commands session).world).1 =
        (context.source.prefersDark session.world).1 := by
    intro htracked
    have hsilent : Command.hostChanged place ∉ commands :=
      fun hm => hquiet _ htracked (mem_notified_of_hostChanged hm session)
    have hdark := prefersDark?_run hheralded hsilent
    rw [prefersDark?, prefersDark?, hnow, hcontext] at hdark
    exact Option.some_inj.mp hdark
  have hread := DesignReader.read_congr (hsame (hquiet _ hdesign)) hhost
  refine hne ?_
  rw [reading?, reading?, hnow, hcontext, Option.map_some, Option.map_some, hread]

/-- At any two points of a run such that the design was told in between of
    every change of its host, a reading that gives something else at the later
    one was run again in between. Setting an axis to the member it has runs no
    reading of any design again, and telling a design of its host runs those
    of its scheme and its attributes again and no others. -/
theorem design_never_stale (session : Session σ) (before between : List (Command σ))
    (place : Nat) (context : DesignContext σ)
    (h : (run before session).designs[place]? = some context) :
    (Heralded place between (run before session) → ∀ reader,
      reading? reader place (run (before ++ between) session) ≠
        reading? reader place (run before session) →
      reader ∈ DesignReader.woken place (notified between (run before session))) ∧
    (∀ choice ∈ context.preferences.current, ∀ other,
      DesignReader.woken other (step (.choose place choice) (run before session)).1.notified = []) ∧
    ∀ other reader,
      reader ∈ DesignReader.woken other
          (step (.hostChanged place) (run before session)).1.notified ↔
        other = place ∧ (reader = .scheme ∨ reader = .attributes) := by
  refine ⟨?_, ?_, ?_⟩
  · intro hheralded reader hne
    rw [run_append] at hne
    exact woken_of_reading?_ne h hheralded hne
  · intro choice hchoice other
    rw [(step_choose choice h).2, Preferences.choose_current hchoice, if_neg Bool.false_ne_true]
    rfl
  · intro other reader
    rw [DesignReader.mem_woken]
    cases reader <;> simp [step, DesignReader.tracked, eq_comm]

/-- A host that turns dark behind a page is noticed once the page is told, and
    the page stays as it is when its theme is chosen again. -/
theorem design_never_stale_dark :
    let session : Session Bool := { world := false }
    let before : List (Command Bool) := [.provideDesign {} .signal]
    let between : List (Command Bool) := [.outside fun _ => true, .hostChanged 0]
    let context : DesignContext Bool := ⟨{}, .signal⟩
    ((run before session).designs[0]? = some context ∧
      Heralded 0 between (run before session) ∧
      reading? .scheme 0 (run (before ++ between) session) ≠
        reading? .scheme 0 (run before session) ∧
      DesignReader.scheme ∈ DesignReader.woken 0 (notified between (run before session))) ∧
    Choice.theme .system ∈ context.preferences.current ∧
      DesignReader.woken 0 (step (.choose 0 (.theme .system)) (run before session)).1.notified =
        [] := by
  intro session before between context
  have hcontext : (run before session).designs[0]? = some context := rfl
  have hheralded : Heralded 0 between (run before session) :=
    ⟨fun _ => List.mem_cons_self, fun h => absurd rfl h, trivial⟩
  have hne : reading? .scheme 0 (run (before ++ between) session) ≠
      reading? .scheme 0 (run before session) := by decide
  have hcurrent : Choice.theme .system ∈ context.preferences.current := by decide
  have h := design_never_stale session before between 0 context hcontext
  exact ⟨⟨hcontext, hheralded, hne, h.1 hheralded .scheme hne⟩, hcurrent, h.2.1 _ hcurrent 0⟩

end Session

end DashKit
