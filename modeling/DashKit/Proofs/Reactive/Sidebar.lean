import DashKit.Proofs.Reactive.Run

/-!
# Fresh Readings of a Sidebar

Whoever reads the state of a sidebar is run again by every action that changes
it, and by which actions they are run again for nothing.

Each action decides for itself whether it notifies. Those that set a flag, and
a toggle, always do; the others report whether they changed anything, and for
them notifying has to be the same thing as a change of the snapshot. It is not
the same flag in all of them. A resize compares the flag it derives, a
synchronisation compares two and must not leave the second one out, and a key
press goes by whether the chord was heard, which is right only because a flip
never leaves the snapshot as it was.

The shortcut and whether it is enabled are read without depending on anything.
That is sound because no action touches the options.

## Main definitions

* `SidebarReader.ofState`, `SidebarReader.ofOptions`: The readings that depend
  on the state, and those that do not.
* `Action.reportsChange`: The actions that notify only of a change.

## Theorems

* `notifies_of_snapshot_ne`: What changes the snapshot notifies.
* `notifies_iff_snapshot_ne`: What reports a change notifies of nothing else.
* `run_sidebar`: The options stay, and the snapshot changes only with its
  signal.
* `sidebar_never_stale`: These facts at every point of a run.
-/

namespace DashKit

/-- The readings that show the state of a sidebar. -/
def SidebarReader.ofState : List SidebarReader :=
  [snapshot, appearance, isOpen, drawerOpen, isMobile]

/-- The readings that show the options of a sidebar. -/
def SidebarReader.ofOptions : List SidebarReader :=
  [shortcut, shortcutEnabled]

/-- An action that may leave everything as it was and notifies only if it does
    not. -/
def Action.reportsChange : Action → Bool
  | .resize _ => true
  | .synchronise _ => true
  | .press _ => true
  | .setOpen _ => false
  | .updateOpen _ => false
  | .setDrawer _ => false
  | .toggle => false

namespace SidebarReader

/-- Readings of the state depend on the signal of the sidebar, and on nothing
    else. -/
theorem mem_woken_ofState {reader : SidebarReader} (h : reader ∈ ofState) {place : Nat}
    {notified : List Signal} : reader ∈ woken place notified ↔ .sidebar place ∈ notified := by
  have htracked : reader.tracked place = [.sidebar place] := by
    simp only [ofState, List.mem_cons, List.not_mem_nil, or_false] at h
    rcases h with rfl | rfl | rfl | rfl | rfl <;> rfl
  simp only [mem_woken, htracked, List.mem_singleton, exists_eq_left]

theorem mem_ofState_or (reader : SidebarReader) : reader ∈ ofState ∨ reader ∈ ofOptions := by
  cases reader <;> decide

/-- A reading of the state depends on the snapshot alone. -/
theorem read_congr_snapshot {reader : SidebarReader} (h : reader ∈ ofState)
    {before after : Sidebar} (hs : after.snapshot = before.snapshot) :
    reader.read after = reader.read before := by
  have hs' := hs
  simp only [Sidebar.snapshot, Snapshot.mk.injEq] at hs'
  simp only [ofState, List.mem_cons, List.not_mem_nil, or_false] at h
  rcases h with rfl | rfl | rfl | rfl | rfl <;> simp only [read, Sidebar.appearance, hs, hs']

theorem read_congr_options {reader : SidebarReader} (h : reader ∈ ofOptions)
    {before after : Sidebar} (ho : after.options = before.options) :
    reader.read after = reader.read before := by
  simp only [ofOptions, List.mem_cons, List.not_mem_nil, or_false] at h
  rcases h with rfl | rfl <;> simp only [read, ho]

end SidebarReader

namespace Action

variable {σ : Type} (storage : Storage σ)

/-- A flip never leaves the snapshot as it was. -/
theorem snapshot_toggle_ne (sidebar : Sidebar) (world : σ) :
    (sidebar.toggle storage world).1.snapshot ≠ sidebar.snapshot := by
  intro h
  unfold Sidebar.toggle at h
  -- The one of the two flags that is flipped is not what it was.
  by_cases hm : sidebar.isMobile = true
  · rw [if_pos hm] at h
    simp only [Sidebar.snapshot, Sidebar.setDrawer, Snapshot.mk.injEq, Bool.not_eq_eq_eq_not,
      Bool.eq_not_self, and_true, and_false] at h
  · rw [if_neg hm] at h
    simp only [Sidebar.snapshot, Sidebar.setOpen, Snapshot.mk.injEq, Bool.not_eq_eq_eq_not,
      Bool.eq_not_self, and_self, and_true] at h

theorem options_run (action : Action) (sidebar : Sidebar) (world : σ) :
    (action.run storage sidebar world).sidebar.options = sidebar.options := by
  -- No action touches the options, and a flip is the only one with cases of its own.
  have htoggle : (sidebar.toggle storage world).1.options = sidebar.options := by
    unfold Sidebar.toggle
    split <;> rfl
  cases action with
  | toggle => exact htoggle
  | synchronise width => cases width <;> rfl
  | press chord =>
      simp only [run, Sidebar.step]
      split
      · exact htoggle
      · rfl
  | _ => rfl

/-- An action that reports changes notifies exactly of those of the
    snapshot. -/
theorem notifies_iff_snapshot_ne {action : Action} (h : action.reportsChange = true)
    (sidebar : Sidebar) (world : σ) :
    (action.run storage sidebar world).notifies = true ↔
      (action.run storage sidebar world).sidebar.snapshot ≠ sidebar.snapshot := by
  cases action with
  | resize width =>
      simp only [run, Sidebar.resize, Sidebar.snapshot, bne_iff_ne, ne_eq, Snapshot.mk.injEq,
        true_and]
  -- Two flags may change, and either of them is enough.
  | synchronise width =>
      cases width with
      | none =>
          simp only [run, Sidebar.restore, Sidebar.snapshot, bne_iff_ne, ne_eq, Snapshot.mk.injEq,
            and_true]
      | some width =>
          simp only [run, Sidebar.restore, Sidebar.resize, Sidebar.snapshot, Bool.or_eq_true,
            bne_iff_ne, ne_eq, Snapshot.mk.injEq, true_and, Classical.not_and_iff_not_or_not]
  | press chord =>
      simp only [run, Sidebar.step]
      split
      · simp only [Option.getD_some, snapshot_toggle_ne storage sidebar world, ne_eq,
          not_false_eq_true]
      · simp only [Option.getD_some, Bool.false_eq_true, ne_eq, not_true_eq_false]
  | _ => exact absurd h Bool.false_ne_true

/-- An action that changes the snapshot notifies. -/
theorem notifies_of_snapshot_ne {action : Action} {sidebar : Sidebar} {world : σ}
    (h : (action.run storage sidebar world).sidebar.snapshot ≠ sidebar.snapshot) :
    (action.run storage sidebar world).notifies = true := by
  by_cases hreports : action.reportsChange = true
  · exact (notifies_iff_snapshot_ne storage hreports sidebar world).mpr h
  -- All others notify whatever they do.
  · cases action <;> first | rfl | exact absurd rfl hreports

/-- A key press answers whether it notifies. -/
theorem answer_press (chord : Chord) (sidebar : Sidebar) (world : σ) :
    ((press chord).run storage sidebar world).answer =
      some ((press chord).run storage sidebar world).notifies := by
  simp only [run, Sidebar.step]
  split <;> rfl

end Action

namespace Session

variable {σ : Type} {place : Nat}

/-- A sidebar stays where it is with its storage and its options, and its
    snapshot changes only if its signal is notified. -/
theorem run_sidebar (commands : List (Command σ)) {session : Session σ}
    {context : SidebarContext σ} (h : session.sidebars[place]? = some context) :
    ∃ now, (run commands session).sidebars[place]? = some now ∧ now.storage = context.storage ∧
      now.sidebar.options = context.sidebar.options ∧
      (.sidebar place ∉ notified commands session →
        now.sidebar.snapshot = context.sidebar.snapshot) := by
  induction commands generalizing session context with
  | nil => exact ⟨context, h, rfl, rfl, fun _ => rfl⟩
  | cons command commands ih =>
      rw [notified, List.mem_append, not_or]
      -- Only an action on this very sidebar can change it.
      by_cases htarget : command.target? = some (.sidebar, place)
      · rcases Command.target?_eq_sidebar htarget with ⟨action, rfl⟩
        rcases step_act action h with ⟨hstep, _, hnotified⟩
        rcases ih hstep with ⟨now, hnow, hstorage, hoptions, hsame⟩
        refine ⟨now, hnow, hstorage, hoptions.trans (Action.options_run _ _ _ _),
          fun hquiet => (hsame hquiet.2).trans ?_⟩
        -- An action that notifies nothing leaves the snapshot as it was.
        refine Classical.byContradiction ?_
        intro hne
        rw [hnotified, if_pos (Action.notifies_of_snapshot_ne _ hne)] at hquiet
        exact hquiet.1 List.mem_cons_self
      · have hstep : (step command session).2.sidebars[place]? = some context :=
          step_context .sidebar h htarget
        rcases ih hstep with ⟨now, hnow, hstorage, hoptions, hsame⟩
        exact ⟨now, hnow, hstorage, hoptions, fun hquiet => hsame hquiet.2⟩

/-- At every point of a run, what is read of the options of a sidebar is what
    was read of them at the start, and whatever reads differently was run again
    on the way. An action that changes the snapshot there runs every reading of
    the state again. A resize, a synchronisation and a key press do so exactly
    if they change the snapshot, and a key press answers whether it did. -/
theorem sidebar_never_stale (session : Session σ) (commands : List (Command σ)) (place : Nat)
    (context : SidebarContext σ) (h : session.sidebars[place]? = some context) :
    ∃ now, (run commands session).sidebars[place]? = some now ∧
      (∀ reader ∈ SidebarReader.ofOptions,
        reader.read now.sidebar = reader.read context.sidebar) ∧
      (∀ reader : SidebarReader, reader.read now.sidebar ≠ reader.read context.sidebar →
        reader ∈ SidebarReader.woken place (notified commands session)) ∧
      ∀ action,
        let reply := (step (.act place action) (run commands session)).1
        ∃ after,
          (step (.act place action) (run commands session)).2.sidebars[place]? = some after ∧
          (after.sidebar.snapshot ≠ now.sidebar.snapshot →
            ∀ reader ∈ SidebarReader.ofState, reader ∈ SidebarReader.woken place reply.notified) ∧
          (action.reportsChange = true → ∀ reader ∈ SidebarReader.ofState,
            (reader ∈ SidebarReader.woken place reply.notified ↔
              after.sidebar.snapshot ≠ now.sidebar.snapshot)) ∧
          ∀ chord, action = .press chord →
            reply.answer = some (decide (after.sidebar.snapshot ≠ now.sidebar.snapshot)) := by
  rcases run_sidebar commands h with ⟨now, hnow, _, hoptions, hsame⟩
  have hfixed : ∀ reader ∈ SidebarReader.ofOptions,
      reader.read now.sidebar = reader.read context.sidebar :=
    fun reader hr => SidebarReader.read_congr_options hr hoptions
  refine ⟨now, hnow, hfixed, ?_, ?_⟩
  · intro reader hne
    rcases SidebarReader.mem_ofState_or reader with hr | hr
    · rw [SidebarReader.mem_woken_ofState hr]
      exact Classical.byContradiction fun hquiet =>
        hne (SidebarReader.read_congr_snapshot hr (hsame hquiet))
    · exact absurd (hfixed reader hr) hne
  · intro action
    rcases step_act action hnow with ⟨hafter, hanswer, hnotified⟩
    -- The readings of the state are run again exactly if the action notifies.
    have hwoken : ∀ reader ∈ SidebarReader.ofState,
        (reader ∈ SidebarReader.woken place
            (step (.act place action) (run commands session)).1.notified ↔
          (action.run now.storage now.sidebar (run commands session).world).notifies = true) := by
      intro reader hr
      rw [SidebarReader.mem_woken_ofState hr, hnotified, List.mem_ite_nil_right]
      exact and_iff_left List.mem_cons_self
    refine ⟨_, hafter, ?_, ?_, ?_⟩
    · intro hne reader hr
      exact (hwoken reader hr).mpr (Action.notifies_of_snapshot_ne _ hne)
    · intro hreports reader hr
      exact (hwoken reader hr).trans (Action.notifies_iff_snapshot_ne _ hreports _ _)
    · intro chord hpress
      subst hpress
      have hreports : (Action.press chord).reportsChange = true := rfl
      have hiff := Action.notifies_iff_snapshot_ne now.storage hreports now.sidebar
        (run commands session).world
      rw [hanswer, Action.answer_press, Option.some_inj, Bool.eq_iff_iff, decide_eq_true_eq]
      exact hiff

/-- Someone else writes to the storage behind a sidebar that was just closed.
    The synchronisation that finds it runs all readings of the state again,
    and the shortcut reads as ever. -/
theorem sidebar_never_stale_restored :
    let context : SidebarContext (Ledger String String) := ⟨Sidebar.fresh {}, Storage.memory⟩
    let session : Session (Ledger String String) := { sidebars := [context], world := [] }
    let commands : List (Command (Ledger String String)) :=
      [.act 0 .toggle, .outside fun _ => [("sidebar_state", "true")]]
    let now : SidebarContext (Ledger String String) :=
      ⟨{ Sidebar.fresh {} with isOpen := false }, Storage.memory⟩
    session.sidebars[0]? = some context ∧ (run commands session).sidebars[0]? = some now ∧
      SidebarReader.shortcut.read now.sidebar = .shortcut ⟨'b'⟩ ∧
      SidebarReader.isOpen ∈ SidebarReader.woken 0 (notified commands session) ∧
      ∀ reader ∈ SidebarReader.ofState, reader ∈ SidebarReader.woken 0
        (step (.act 0 (.synchronise none)) (run commands session)).1.notified := by
  intro context session commands now
  rcases sidebar_never_stale session commands 0 context rfl with
    ⟨found, hfound, hfixed, hwoken, hact⟩
  have hnow : (run commands session).sidebars[0]? = some now := rfl
  rw [hnow, Option.some_inj] at hfound
  subst hfound
  rcases hact (.synchronise none) with ⟨after, hafter, hchanged, _, _⟩
  -- The flag that was stored is taken over.
  have hopen : some context = some after := hafter
  rw [Option.some_inj] at hopen
  subst hopen
  exact ⟨rfl, hnow, hfixed .shortcut (by decide), hwoken .isOpen (by decide),
    hchanged (by decide)⟩

end Session

end DashKit
