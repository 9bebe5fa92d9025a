import DashKit.Proofs.Reactive.Sidebar
import DashKit.Proofs.Sidebar.Memory

/-!
# Catching Up With the Host

A page that is drawn on a server starts its sidebars fresh, because the server
knows neither the stored flag nor the window, and the browser must begin with
what the server drew. Once the page is mounted the sidebar is synchronised with
its host. What it is then must not depend on this detour: it is the sidebar that
would have been there if it had been mounted from its storage at once.

A synchronisation has two parts, and the second one must be done also when the
first has changed something already. `synchronise_eq` writes down both together.
It mentions the flags that the sidebar had before only where no width is
measured, so nothing that happened to a sidebar in between makes a difference to
what a synchronisation brings.

For the same reason a second one brings nothing new, as long as the storage gives
the same answer again. That is a property of the storage. `Presents` asks for no
more than that loads answer from entries and leave them as they are. A storage
may count its loads, for instance, and every storage that a host has presents its
entries.

## Main definitions

* `Storage.Presents`: Loading answers from the entries and leaves them alone.
* `Device.entry`: The entries of a host's storage.

## Theorems

* `storage_presents`: Every host's storage presents its entries.
* `synchronise_eq`, `synchronise_fresh`: What a synchronisation brings, and
  that it makes up for a late start.
* `synchronise_twice`: A second one brings nothing and notifies nobody.
* `synchronise_catches_up`: These facts at every point of a session.
-/

namespace DashKit

/-- Loading answers with the entry under the key, and no entry is changed by
    it. -/
structure Storage.Presents {σ : Type} (storage : Storage σ) (entry : σ → String → Option String) :
    Prop where
  answer : ∀ key world, (storage.load key world).1 = entry world key
  keeps : ∀ key world, entry (storage.load key world).2 = entry world

/-- The text under a key on a host. -/
def Device.entry : Device → String → Option String
  | memory entries, key => Ledger.get? key entries
  | disabled, _ => none
  | cookies document, key => Cookie.lookup document.header key

/-- Every host's storage presents its entries. -/
theorem Device.storage_presents : Device.storage.Presents Device.entry where
  answer key world := by cases world <;> rfl
  keeps key world := by cases world <;> rfl

/-- A record of the calls does not get in the way of the entries. -/
theorem Storage.Presents.recorded {σ : Type} {storage : Storage σ}
    {entry : σ → String → Option String} (h : storage.Presents entry) :
    storage.recorded.Presents fun world => entry world.1 where
  answer key world := h.answer key world.1
  keeps key world := h.keeps key world.1

namespace Action

variable {σ : Type} (storage : Storage σ) (width : Option Float)

/-- A synchronisation takes the stored flag over and measures the window, if
    there is one, whichever of the two changes anything. Of the storage it wants
    one load. -/
theorem synchronise_eq (sidebar : Sidebar) (world : σ) :
    let effect := (synchronise width).run storage sidebar world
    effect.sidebar =
        { sidebar with
          isOpen := Sidebar.taken (storage.load Sidebar.storageKey world).1
            sidebar.options.startsOpen
          isMobile := (width.map fun w => isNarrow w sidebar.options.breakpoint).getD
            sidebar.isMobile } ∧
      effect.world = (storage.load Sidebar.storageKey world).2 := by
  -- The flag is taken over first, and the window is measured if there is one.
  rw [← storedOpen_eq]
  cases width <;> exact ⟨rfl, rfl⟩

/-- A fresh sidebar that is synchronised is the one that is mounted at once, and
    its storage sees the same of it. -/
theorem synchronise_fresh (options : SidebarOptions) (world : σ) :
    let effect := (synchronise width).run storage (Sidebar.fresh options) world
    effect.sidebar = (Sidebar.mounted storage options width world).1 ∧
      effect.world = (Sidebar.mounted storage options width world).2 := by
  cases width <;> exact ⟨rfl, rfl⟩

/-- What has been synchronised is left as it is by doing so again. -/
theorem synchronise_twice {entry : σ → String → Option String} (h : storage.Presents entry)
    (sidebar : Sidebar) (world : σ) :
    let once := (synchronise width).run storage sidebar world
    let twice := (synchronise width).run storage once.sidebar once.world
    twice.sidebar = once.sidebar ∧ twice.notifies = false ∧ entry once.world = entry world ∧
      entry twice.world = entry once.world := by
  intro once twice
  rcases synchronise_eq storage width sidebar world with ⟨hsidebar, hworld⟩
  rcases synchronise_eq storage width once.sidebar once.world with ⟨hsidebar', hworld'⟩
  have hkept : entry once.world = entry world := by
    rw [hworld]
    exact h.keeps _ _
  -- The second load finds the entry that the first one found.
  have hanswer : (storage.load Sidebar.storageKey once.world).1 =
      (storage.load Sidebar.storageKey world).1 := by
    rw [h.answer, h.answer, hkept]
  -- The same flag and the same width leave the sidebar as it is.
  have hsame : twice.sidebar = once.sidebar := by
    rw [hsidebar', hanswer, hsidebar]
    cases width <;> rfl
  refine ⟨hsame, ?_, hkept, ?_⟩
  · rw [Bool.eq_false_iff]
    intro hnotifies
    exact (notifies_iff_snapshot_ne storage rfl once.sidebar once.world).mp hnotifies
      (congrArg Sidebar.snapshot hsame)
  · rw [hworld']
    exact h.keeps _ _

end Action

namespace Session

variable {σ : Type}

/-- What a synchronisation leaves of a sidebar in a session, and of the world. -/
theorem step_synchronise (width : Option Float) {session : Session σ} {place : Nat}
    {context : SidebarContext σ} (h : session.sidebars[place]? = some context) :
    let after := (step (.act place (.synchronise width)) session).2
    let loaded := context.storage.load Sidebar.storageKey session.world
    after.sidebars[place]? = some
        { context with
          sidebar :=
            { context.sidebar with
              isOpen := Sidebar.taken loaded.1 context.sidebar.options.startsOpen
              isMobile := (width.map fun w => isNarrow w context.sidebar.options.breakpoint).getD
                context.sidebar.isMobile } } ∧
      after.world = loaded.2 := by
  rcases Action.synchronise_eq context.storage width context.sidebar session.world with
    ⟨hsidebar, hworld⟩
  constructor
  · rw [(step_act (.synchronise width) h).1, hsidebar]
  · rw [← hworld, step_act_eq (.synchronise width) h]

/-- A second synchronisation of a sidebar whose storage presents its entries
    leaves the session as it is, but for what a load may do to the world, and
    notifies nobody. -/
theorem step_synchronise_twice (width : Option Float) {session : Session σ} {place : Nat}
    {context : SidebarContext σ} (h : session.sidebars[place]? = some context)
    {entry : σ → String → Option String} (hentry : context.storage.Presents entry) :
    let after := (step (.act place (.synchronise width)) session).2
    let again := step (.act place (.synchronise width)) after
    entry after.world = entry session.world ∧ again.2 = { after with world := again.2.world } ∧
      entry again.2.world = entry after.world ∧ again.1.notified = [] := by
  intro after again
  rcases Action.synchronise_twice context.storage width hentry context.sidebar session.world with
    ⟨hsame, hquiet, hkept, hkept'⟩
  -- Both steps are spelled out, the second from the sidebar that the first has left.
  have hafter := (step_act (.synchronise width) h).1
  have hworld : after.world = _ := congrArg Session.world (step_act_eq (.synchronise width) h)
  have hagain : again.2 = _ := step_act_eq (.synchronise width) hafter
  have hnotified : again.1.notified = _ := (step_act (.synchronise width) hafter).2.2
  rw [hworld] at hagain hnotified ⊢
  refine ⟨hkept, ?_, ?_, ?_⟩
  -- The sidebar is put back where it was.
  · rcases List.getElem?_eq_some_iff.mp hafter with ⟨hlt, hget⟩
    rw [hagain, hsame, ← hget, List.set_getElem_self]
  · rw [hagain]
    exact hkept'
  · rw [hnotified, hquiet]
    rfl

/-- A sidebar that was provided fresh and is synchronised is the one that would
    have been mounted at once. Whatever happens to it and to the world before, a
    synchronisation takes over the flag that is stored if it is spelled exactly,
    and else the one the sidebar starts with, goes by the width if there is one,
    and leaves the drawer alone; of the storage it wants one load. If the storage
    presents its entries, they all stay, and a second synchronisation changes
    nothing and runs no reading again. -/
theorem synchronise_catches_up (session : Session σ) (options : SidebarOptions)
    (storage : Storage σ) (width : Option Float) :
    let place := session.sidebars.length
    let start := (step (.provideSidebar options storage) session).2
    let synced := (step (.act place (.synchronise width)) start).2
    let mounted := Sidebar.mounted storage options width session.world
    (∃ context, synced.sidebars[place]? = some context ∧ context.sidebar = mounted.1 ∧
      context.sidebar.snapshot = mounted.1.snapshot ∧ synced.world = mounted.2) ∧
    ∀ commands : List (Command σ),
      let before := run commands start
      let after := (step (.act place (.synchronise width)) before).2
      let again := step (.act place (.synchronise width)) after
      let loaded := storage.load Sidebar.storageKey before.world
      ∃ old now, before.sidebars[place]? = some old ∧ after.sidebars[place]? = some now ∧
        now.sidebar.isOpen = Sidebar.taken loaded.1 options.startsOpen ∧
        now.sidebar.isMobile =
          (width.map fun w => isNarrow w options.breakpoint).getD old.sidebar.isMobile ∧
        now.sidebar.drawerOpen = old.sidebar.drawerOpen ∧ after.world = loaded.2 ∧
        ∀ entry, storage.Presents entry →
          loaded.1 = entry before.world Sidebar.storageKey ∧
          entry after.world = entry before.world ∧
          again.2 = { after with world := again.2.world } ∧
          entry again.2.world = entry after.world ∧
          ∀ other, SidebarReader.woken other again.1.notified = [] ∧
            DesignReader.woken other again.1.notified = [] := by
  intro place start synced mounted
  have hstart : start.sidebars[place]? = some ⟨Sidebar.fresh options, storage⟩ :=
    List.getElem?_concat_length
  refine ⟨?_, ?_⟩
  · rcases Action.synchronise_fresh storage width options session.world with ⟨hsidebar, hworld⟩
    refine ⟨_, (step_act (.synchronise width) hstart).1, hsidebar,
      congrArg Sidebar.snapshot hsidebar, ?_⟩
    exact (congrArg Session.world (step_act_eq (.synchronise width) hstart)).trans hworld
  · intro commands before after again loaded
    -- A run may change the sidebar, but never its storage or its options.
    rcases run_sidebar commands hstart with ⟨⟨sidebar, _⟩, hold, hstorage, hoptions, _⟩
    obtain rfl : _ = storage := hstorage
    obtain rfl : _ = options := hoptions
    rcases step_synchronise width hold with ⟨hafter, hworld⟩
    refine ⟨_, _, hold, hafter, rfl, rfl, rfl, hworld, ?_⟩
    intro entry hentry
    rcases step_synchronise_twice width hold hentry with ⟨hkept, hsame, hkept', hnotified⟩
    -- Nothing was notified, so there is nothing to run again for anybody.
    refine ⟨hentry.answer _ _, hkept, hsame, hkept', ?_⟩
    intro other
    rw [hnotified]
    exact ⟨rerun_nil, rerun_nil⟩

/-- A sidebar is flipped and its drawer opened before its first synchronisation,
    and a stranger spoils the entry that the flip has saved. The sidebar goes back
    to the flag it starts with and the drawer stays. Of a second synchronisation
    only the record of calls knows. -/
theorem synchronise_catches_up_spoilt :
    let storage := Device.storage.recorded
    let spoilt : Device := .memory [("locale", "en"), ("sidebar_state", "yes")]
    let session : Session (Device × List Call) :=
      { world := (.memory [("sidebar_state", "false")], []) }
    let start := (step (.provideSidebar {} storage) session).2
    let before := run [.act 0 .toggle, .act 0 (.setDrawer true),
      .outside fun world => (spoilt, world.2)] start
    let after := (step (.act 0 (.synchronise none)) before).2
    let again := step (.act 0 (.synchronise none)) after
    (∃ context, (step (.act 0 (.synchronise none)) start).2.sidebars[0]? = some context ∧
        context.sidebar.snapshot = ⟨false, false, false⟩) ∧
      storage.Presents (fun world => world.1.entry) ∧
      after.sidebars[0]? = some ⟨{ Sidebar.fresh {} with drawerOpen := true }, storage⟩ ∧
      again.2.sidebars = after.sidebars ∧ again.2.world.1.entry = spoilt.entry ∧
      SidebarReader.woken 0 again.1.notified = [] ∧
      again.2.world.2 = after.world.2 ++ [.load "sidebar_state" (some "yes")] := by
  intro storage spoilt session start before after again
  have hpresents : storage.Presents (fun world => world.1.entry) := Device.storage_presents.recorded
  rcases synchronise_catches_up session {} storage none with
    ⟨⟨synced, hsynced, _, hsnapshot, _⟩, hlater⟩
  rcases hlater [.act 0 .toggle, .act 0 (.setDrawer true),
    .outside fun world => (spoilt, world.2)] with ⟨_, _, _, _, _, _, _, _, hentries⟩
  rcases hentries _ hpresents with ⟨_, hkept, hsame, hkept', hquiet⟩
  have hsidebars : again.2.sidebars = after.sidebars := (congrArg Session.sidebars hsame :)
  exact ⟨⟨synced, hsynced, hsnapshot⟩, hpresents, rfl, hsidebars, hkept'.trans hkept,
    (hquiet 0).1, rfl⟩

end Session

end DashKit
