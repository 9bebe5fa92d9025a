import DashKit.Proofs.Reactive.Design
import DashKit.Proofs.Reactive.Owners
import DashKit.Proofs.Reactive.Sidebar

/-!
# Hooks and Handles

Which context a hook finds at every point of a run, and what can be done with
it from then on.

The hook of a kind finds the last context of the nearest owner that provided
one, and fails if no owner on the path did. Commands about the other kind do
not matter to it: a run without them leads to a session that nobody of this
kind can tell apart. This goes one way for what is stored. Sidebars change the
world they save to, and a design keeps nothing there, so a design does not
notice; a sidebar depends on the world, and no command about designs touches it.

What a hook finds is a place, and a place is all there is to a handle. Two
handles to one context are the same, so what was written through one is found
through the other, until something is written there again.

## Main definitions

* `Command.onDesigns`, `Command.onSidebars`: What a command makes of the
  contexts of a kind.
* `Kind.Alike`: Sessions that nobody of one kind can tell apart.
* `Session.SharesDesign`, `Session.SharesSidebar`: A write is seen through all
  handles to its context, and through no others.

## Theorems

* `Session.designs_step`, `Session.sidebars_step`: A command treats the kinds
  apart.
* `Kind.Alike.run_filter`: Commands about one kind do not matter to the other.
* `Session.sharesDesign`, `Session.sharesSidebar`: Every context is shared.
* `Session.hooks_scoped`: What the hooks find at every point of a run, and what
  the handles are good for from then on.
-/

namespace DashKit

namespace Command

variable {σ : Type}

/-- The kind of context that a command is about. -/
def kind? : Command σ → Option Kind
  | .provideDesign _ _ => some .design
  | .choose _ _ => some .design
  | .hostChanged _ => some .design
  | .provideSidebar _ _ => some .sidebar
  | .act _ _ => some .sidebar
  | .enter => none
  | .leave => none
  | .outside _ => none

/-- The host of the design that a command provides. -/
def source? : Command σ → Option (SchemeSource σ)
  | .provideDesign _ source => some source
  | _ => none

/-- The options and the storage of the sidebar that a command provides. -/
def sidebar? : Command σ → Option (SidebarOptions × Storage σ)
  | .provideSidebar options storage => some (options, storage)
  | _ => none

/-- What a command makes of the designs. It depends on nothing else. -/
def onDesigns (command : Command σ) (designs : List (DesignContext σ)) :
    List (DesignContext σ) :=
  match command with
  | .provideDesign options source => designs ++ [⟨options.preferences, source⟩]
  | .choose place choice =>
      match designs[place]? with
      | none => designs
      | some context =>
          designs.set place
            { context with preferences := (context.preferences.choose choice).2 }
  | _ => designs

/-- What a command makes of the sidebars and of what is stored. -/
def onSidebars (command : Command σ) (sidebars : List (SidebarContext σ)) (world : σ) :
    List (SidebarContext σ) × σ :=
  match command with
  | .provideSidebar options storage => (sidebars ++ [⟨.fresh options, storage⟩], world)
  | .act place action =>
      match sidebars[place]? with
      | none => (sidebars, world)
      | some context =>
          let effect := action.run context.storage context.sidebar world
          (sidebars.set place { context with sidebar := effect.sidebar }, effect.world)
  | .outside change => (sidebars, change world)
  | _ => (sidebars, world)

end Command

/-- What a sidebar was provided with. -/
def SidebarContext.parts {σ : Type} (context : SidebarContext σ) : SidebarOptions × Storage σ :=
  (context.sidebar.options, context.storage)

namespace Session

variable {σ : Type}

/-- There is a design at a place. A choice made there is seen there until the
    next one, whatever else happens, and it changes no other context. -/
def SharesDesign (session : Session σ) (place : Nat) : Prop :=
  ∃ context, session.designs[place]? = some context ∧ ∀ choice,
    let after := (step (.choose place choice) session).2
    (∀ rest, (∀ other, .choose place other ∉ rest) →
      (run rest after).designs[place]? =
        some { context with preferences := (context.preferences.choose choice).2 }) ∧
    after.sidebars = session.sidebars ∧
    ∀ other ≠ place, after.designs[other]? = session.designs[other]?

/-- There is a sidebar at a place. The outcome of an action there is seen there
    until the next one, whatever else happens, and it changes no other
    context. -/
def SharesSidebar (session : Session σ) (place : Nat) : Prop :=
  ∃ context, session.sidebars[place]? = some context ∧ ∀ action,
    let after := (step (.act place action) session).2
    (∀ rest, (∀ other, .act place other ∉ rest) →
      (run rest after).sidebars[place]? = some { context with
        sidebar := (action.run context.storage context.sidebar session.world).sidebar }) ∧
    after.designs = session.designs ∧
    ∀ other ≠ place, after.sidebars[other]? = session.sidebars[other]?

end Session

/-! ## Contexts After a Command -/

/-- Replacing an element by one that looks the same changes no view. -/
theorem map_set_of_eq {α β : Type} {f : α → β} {l : List α} {i : Nat} {a b : α}
    (h : l[i]? = some a) (hf : f b = f a) : (l.set i b).map f = l.map f := by
  rcases List.getElem?_eq_some_iff.mp h with ⟨hlt, rfl⟩
  rw [List.map_set, hf, ← List.map_set, List.set_getElem_self]

namespace Command

variable {σ : Type} {command : Command σ}

theorem onDesigns_other (h : command.kind? = some .sidebar) (designs : List (DesignContext σ)) :
    command.onDesigns designs = designs := by
  cases command with
  | provideDesign options source => simp only [kind?, Option.some.injEq, reduceCtorEq] at h
  | choose place choice => simp only [kind?, Option.some.injEq, reduceCtorEq] at h
  | _ => rfl

theorem onSidebars_other (h : command.kind? = some .design) (sidebars : List (SidebarContext σ))
    (world : σ) : command.onSidebars sidebars world = (sidebars, world) := by
  cases command with
  | provideSidebar options storage => simp only [kind?, Option.some.injEq, reduceCtorEq] at h
  | act place action => simp only [kind?, Option.some.injEq, reduceCtorEq] at h
  | outside change => simp only [kind?, reduceCtorEq] at h
  | _ => rfl

/-- A design that is provided is added with its host, and no host is replaced. -/
theorem sources_onDesigns (command : Command σ) (designs : List (DesignContext σ)) :
    (command.onDesigns designs).map DesignContext.source =
      designs.map DesignContext.source ++ command.source?.toList := by
  cases command with
  | provideDesign options source => exact List.map_append
  -- The design that is put in the place of another has the same host.
  | choose place choice =>
      simp only [onDesigns, source?, Option.toList_none, List.append_nil]
      cases h : designs[place]? with
      | none => rfl
      | some context => exact map_set_of_eq h rfl
  | _ => exact (List.append_nil _).symm

/-- A sidebar that is provided is added with its options and its storage, and
    none of these are replaced. -/
theorem parts_onSidebars (command : Command σ) (sidebars : List (SidebarContext σ)) (world : σ) :
    (command.onSidebars sidebars world).1.map SidebarContext.parts =
      sidebars.map SidebarContext.parts ++ command.sidebar?.toList := by
  cases command with
  | provideSidebar options storage => exact List.map_append
  -- An action keeps the options of its sidebar, and nothing replaces a storage.
  | act place action =>
      simp only [onSidebars, sidebar?, Option.toList_none, List.append_nil]
      cases h : sidebars[place]? with
      | none => rfl
      | some context =>
          exact map_set_of_eq h (congrArg (·, context.storage) (Action.options_run _ action _ _))
  | _ => exact (List.append_nil _).symm

end Command

namespace Session

variable {σ : Type}

theorem designs_step (command : Command σ) (session : Session σ) :
    (step command session).2.designs = command.onDesigns session.designs := by
  cases command with
  -- Leaving an owner looks at nothing but the owners.
  | leave => cases h : session.ancestors <;> simp only [step, h, Command.onDesigns]
  | choose place choice =>
      simp only [step, choose, Command.onDesigns]
      cases session.designs[place]? <;> rfl
  | act place action =>
      simp only [step, act]
      cases session.sidebars[place]? <;> rfl
  | _ => rfl

theorem sidebars_step (command : Command σ) (session : Session σ) :
    (step command session).2.sidebars =
        (command.onSidebars session.sidebars session.world).1 ∧
      (step command session).2.world =
        (command.onSidebars session.sidebars session.world).2 := by
  cases command with
  | leave => cases h : session.ancestors <;> simp only [step, h, Command.onSidebars, and_self]
  | choose place choice =>
      simp only [step, choose]
      cases session.designs[place]? <;> exact ⟨rfl, rfl⟩
  | act place action =>
      simp only [step, act, Command.onSidebars]
      cases session.sidebars[place]? <;> exact ⟨rfl, rfl⟩
  | _ => exact ⟨rfl, rfl⟩

theorem sources_step (command : Command σ) (session : Session σ) :
    (step command session).2.designs.map DesignContext.source =
      session.designs.map DesignContext.source ++ command.source?.toList := by
  rw [designs_step, Command.sources_onDesigns]

theorem parts_step (command : Command σ) (session : Session σ) :
    (step command session).2.sidebars.map SidebarContext.parts =
      session.sidebars.map SidebarContext.parts ++ command.sidebar?.toList := by
  rw [(sidebars_step command session).1, Command.parts_onSidebars]

end Session

/-! ## One Kind and the Other -/

namespace Kind

open Session (designs_step sidebars_step)

variable {σ : Type} {s t : Session σ}

/-- The contexts of the kind are the same, and so is where they are found. What
    is stored belongs to the sidebars. -/
def Alike : Kind → Session σ → Session σ → Prop
  | design, s, t => s.designs = t.designs ∧ design.entries s = design.entries t
  | sidebar, s, t =>
      s.sidebars = t.sidebars ∧ s.world = t.world ∧ sidebar.entries s = sidebar.entries t

theorem Alike.count_eq {kind : Kind} (h : kind.Alike s t) : kind.count s = kind.count t := by
  cases kind with
  | design => exact congrArg List.length h.1
  | sidebar => exact congrArg List.length h.1

theorem Alike.entries_eq {kind : Kind} (h : kind.Alike s t) : kind.entries s = kind.entries t := by
  cases kind with
  | design => exact h.2
  | sidebar => exact h.2.2

theorem Alike.find_eq {kind : Kind} (h : kind.Alike s t) : kind.find s = kind.find t := by
  rw [Kind.find_eq, Kind.find_eq, h.entries_eq]

/-- One command keeps sessions alike. -/
theorem Alike.step {kind : Kind} (h : kind.Alike s t) (command : Command σ) :
    kind.Alike (s.step command).2 (t.step command).2 := by
  -- Where a context is found changes with the owners, and with the number of contexts
  -- when one is provided.
  have hentries : kind.entries (s.step command).2 = kind.entries (t.step command).2 := by
    rw [entries_step, entries_step, h.entries_eq, h.count_eq]
  cases kind with
  | design => exact ⟨by rw [designs_step, designs_step, h.1], hentries⟩
  | sidebar =>
      rcases sidebars_step command s with ⟨hsidebars, hworld⟩
      rw [h.1, h.2.1] at hsidebars hworld
      rcases sidebars_step command t with ⟨hsidebars', hworld'⟩
      exact ⟨hsidebars.trans hsidebars'.symm, hworld.trans hworld'.symm, hentries⟩

/-- A command about the other kind leaves a session alike. -/
theorem alike_step {kind other : Kind} (hne : other ≠ kind) {command : Command σ}
    (h : command.kind? = some other) (s : Session σ) : kind.Alike (s.step command).2 s := by
  -- A command about the other kind provides nothing of this one and moves no owner.
  have hentries : kind.entries (s.step command).2 = kind.entries s := by
    rw [entries_step]
    cases command <;> simp_all [Command.kind?, Command.provides?]
  cases kind with
  | design =>
      cases other with
      | design => exact absurd rfl hne
      -- Whatever it does to what is stored is no matter to designs.
      | sidebar => exact ⟨(designs_step command s).trans (Command.onDesigns_other h _), hentries⟩
  | sidebar =>
      cases other with
      | design =>
          rcases sidebars_step command s with ⟨hsidebars, hworld⟩
          rw [Command.onSidebars_other h] at hsidebars hworld
          exact ⟨hsidebars, hworld, hentries⟩
      | sidebar => exact absurd rfl hne

theorem Alike.trans {kind : Kind} {u : Session σ} (h : kind.Alike s t) (h' : kind.Alike t u) :
    kind.Alike s u := by
  cases kind with
  | design => exact ⟨h.1.trans h'.1, h.2.trans h'.2⟩
  | sidebar => exact ⟨h.1.trans h'.1, h.2.1.trans h'.2.1, h.2.2.trans h'.2.2⟩

theorem Alike.symm {kind : Kind} (h : kind.Alike s t) : kind.Alike t s := by
  cases kind with
  | design => exact ⟨h.1.symm, h.2.symm⟩
  | sidebar => exact ⟨h.1.symm, h.2.1.symm, h.2.2.symm⟩

/-- Commands about the other kind may be left out. -/
theorem Alike.run_filter {kind other : Kind} (hne : other ≠ kind) (commands : List (Command σ))
    (h : kind.Alike s t) :
    kind.Alike (s.run (commands.filter (·.kind? ≠ some other))) (t.run commands) := by
  induction commands generalizing s t with
  | nil => exact h
  | cons command commands ih =>
      -- A command that is left out is a step of one run only, and the sessions are
      -- alike after it as before.
      by_cases hother : command.kind? = some other
      · have hout : ¬ decide (command.kind? ≠ some other) = true := by
          rw [decide_eq_true_iff]
          exact not_not_intro hother
        rw [List.filter_cons, if_neg hout]
        exact ih (h.trans (alike_step hne hother t).symm)
      · have hin : decide (command.kind? ≠ some other) = true := decide_eq_true hother
        rw [List.filter_cons, if_pos hin]
        exact ih (h.step command)

theorem Alike.refl (kind : Kind) (s : Session σ) : kind.Alike s s := by
  cases kind with
  | design => exact ⟨rfl, rfl⟩
  | sidebar => exact ⟨rfl, rfl, rfl⟩

end Kind

/-! ## Handles -/

namespace Session

variable {σ : Type}

theorem sharesDesign {session : Session σ} {place : Nat} {context : DesignContext σ}
    (h : session.designs[place]? = some context) : session.SharesDesign place := by
  refine ⟨context, h, fun choice => ⟨?_, ?_, ?_⟩⟩
  · intro rest hquiet
    refine run_context .design (step_choose choice h).1 ?_
    intro command hcommand htarget
    -- Only another choice for this design could have it as its target.
    rcases Command.target?_eq_design htarget with ⟨later, rfl⟩
    exact hquiet later hcommand
  · rw [(sidebars_step (.choose place choice) session).1, Command.onSidebars_other rfl]
  · intro other hne
    simp only [step, choose, h]
    exact List.getElem?_set_ne hne.symm

theorem sharesSidebar {session : Session σ} {place : Nat} {context : SidebarContext σ}
    (h : session.sidebars[place]? = some context) : session.SharesSidebar place := by
  refine ⟨context, h, fun action => ⟨?_, ?_, ?_⟩⟩
  · intro rest hquiet
    refine run_context .sidebar (step_act action h).1 ?_
    intro command hcommand htarget
    -- Only another action on this sidebar could have it as its target.
    rcases Command.target?_eq_sidebar htarget with ⟨later, rfl⟩
    exact hquiet later hcommand
  · rw [designs_step, Command.onDesigns_other rfl]
  · intro other hne
    simp only [step, act, h]
    exact List.getElem?_set_ne hne.symm

/-- At every point of a run each hook finds the context that the nearest owner
    on the path provided last, and it fails exactly if no owner on the path has
    provided one, naming the provider. Without the commands about the other kind
    it finds the same, among the same contexts. The contexts are those that were
    provided, in order, and the handle that a hook finds is good for the rest of
    the run: what is written through one handle to a context is seen through all
    of them, and other contexts of either kind do not change. -/
theorem hooks_scoped (commands more : List (Command σ)) (world : σ) :
    let session := run commands { world }
    (∀ kind : Kind,
      let lineage := Lineage.run kind commands {}
      (∀ place, kind.find session = .ok place ↔
        Nearest lineage.providers lineage.path place) ∧
      (∀ fault, kind.find session = .error fault ↔
        fault = .missingProvider kind.provider ∧
          ∀ owner ∈ lineage.path, owner ∉ lineage.providers) ∧
      ∀ other ≠ kind,
        let apart := run (commands.filter (·.kind? ≠ some other)) { world }
        kind.Alike apart session ∧ kind.find apart = kind.find session) ∧
    session.designs.map DesignContext.source = commands.filterMap Command.source? ∧
    session.sidebars.map SidebarContext.parts = commands.filterMap Command.sidebar? ∧
    (∀ place, session.requireDesign = .ok place → (run more session).SharesDesign place) ∧
    ∀ place, session.requireSidebar = .ok place → (run more session).SharesSidebar place := by
  intro session
  have hfits (kind : Kind) := Lineage.fits_run kind commands world
  have hsources : session.designs.map DesignContext.source = commands.filterMap Command.source? :=
    run_added (fun session => session.designs.map DesignContext.source) sources_step commands _
  have hparts : session.sidebars.map SidebarContext.parts = commands.filterMap Command.sidebar? :=
    run_added (fun session => session.sidebars.map SidebarContext.parts) parts_step commands _
  refine ⟨fun kind => ⟨(hfits kind).find.1, (hfits kind).find.2, ?_⟩, hsources, hparts, ?_, ?_⟩
  · intro other hne
    have halike := (Kind.Alike.refl kind { world }).run_filter hne commands
    exact ⟨halike, halike.find_eq⟩
  -- A place that a hook finds was given out, so there is a context behind it, also
  -- after more commands.
  · intro place h
    have hcontext := List.getElem?_eq_getElem ((hfits .design).lt_count h)
    rcases run_design more hcontext with ⟨now, hnow, _⟩
    exact sharesDesign hnow
  · intro place h
    have hcontext := List.getElem?_eq_getElem ((hfits .sidebar).lt_count h)
    rcases run_sidebar more hcontext with ⟨now, hnow, _⟩
    exact sharesSidebar hnow

/-- A child provides two sidebars over the storage of the sidebar of the root.
    In a grandchild the second one is found, also without the design, and the
    design of the root; back at the root and in another child it is the first
    sidebar of all. What is done through the handles of the grandchild is still
    seen after the first sidebar was toggled as well, although both sidebars
    were saved to one entry. -/
theorem hooks_scoped_shadowed :
    let commands : List (Command (Ledger String String)) :=
      [.provideDesign {} .indifferent, .provideSidebar {} .memory, .enter,
        .provideSidebar { startsOpen := false } .memory, .provideSidebar {} .memory, .enter]
    let session := run commands { world := [] }
    let back := run [.leave, .leave, .enter] session
    let toggled := (step (.act 2 .toggle) back).2
    let darkened := (step (.choose 0 (.theme .dark)) back).2
    (session.requireSidebar = .ok 2 ∧ Nearest [[], [0], [0]] [[1, 0], [0], []] 2 ∧
        Kind.sidebar.find (run (commands.filter (·.kind? ≠ some .design)) { world := [] }) =
          .ok 2 ∧
        session.requireDesign = .ok 0 ∧ back.requireSidebar = .ok 0) ∧
      ((run [.act 0 .toggle, .act 0 .toggle] toggled).sidebars[2]?.map (·.sidebar.snapshot) =
          some ⟨false, false, false⟩ ∧
        toggled.sidebars[0]?.map (·.sidebar.snapshot) = some ⟨true, false, false⟩) ∧
      (run [.act 0 .toggle] darkened).designs[0]?.map (·.preferences) =
        some { theme := .dark } := by
  intro commands session back toggled darkened
  rcases hooks_scoped commands [.leave, .leave, .enter] [] with
    ⟨hfound, _, _, hdesigns, hsidebars⟩
  have hsidebar : session.requireSidebar = .ok 2 := rfl
  have hdesign : session.requireDesign = .ok 0 := rfl
  have hnearest : Nearest [[], [0], [0]] [[1, 0], [0], []] 2 :=
    ((hfound .sidebar).1 2).mp hsidebar
  have hapart := ((hfound .sidebar).2.2 .design (by decide)).2.trans hsidebar
  refine ⟨⟨hsidebar, hnearest, hapart, hdesign, rfl⟩, ?_, ?_⟩
  · rcases hsidebars 2 hsidebar with ⟨context, hcontext, hact⟩
    have hfresh : some ⟨Sidebar.fresh {}, Storage.memory⟩ = some context := hcontext
    rw [Option.some_inj] at hfresh
    subst hfresh
    rcases hact .toggle with ⟨hseen, _, hothers⟩
    rw [hseen [.act 0 .toggle, .act 0 .toggle] (by simp), hothers 0 (by decide)]
    exact ⟨rfl, rfl⟩
  · rcases hdesigns 0 hdesign with ⟨context, hcontext, hchoose⟩
    have hprovided : some ⟨{}, SchemeSource.indifferent⟩ = some context := hcontext
    rw [Option.some_inj] at hprovided
    subst hprovided
    rw [(hchoose (.theme .dark)).1 [.act 0 .toggle] (by simp)]
    rfl

end Session

end DashKit
