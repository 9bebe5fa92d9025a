import DashKit.Proofs.Page.SidebarTree

/-!
# Providers

Every component of a sidebar follows the provider that was set up last.

A component is not told where it stands. It looks for a sidebar from the owner
that is current when it is set up, and what it finds there is the latest of this
owner, or else what is found from the owner above. A provider has no owner of its
own, so a component that stands inside one provider may well find another. That
happens to whatever is set up after a second provider in the same owner: the
components behind it in the document, and the entries of a menu in front of it,
because the children of a panel are set up when all else has been.

What a page shows is therefore told by the order of setting up. `Staged.Writes`
is the contract of work in two rounds by which this is proved. An owner stands in
a session with options of its own and options found outside (`Session.Stands`).
The contract says which provider each round leaves behind in the owner, and what
is written if the second round starts where a given provider is found. Where one
work comes after another, the two rounds add up in the order of the document
(`Writes.both`), work that waits for the second round brings both of its rounds
along (`Writes.later`), and only an owner around some work keeps what it provides
to itself (`Writes.owned`).

A page shows what the providers around its components say exactly if every
component agrees with the one that it finds. Two sidebars that stand inside each
other or side by side and start differently are enough for it not to, unless each
of them is in an owner of its own.

## Main definitions

* `Session.Stands`: What is found from the current owner.
* `Session.Grown`: Sidebars were added, and nothing else changed outside of the
  current owner.
* `Staged.Writes`: Both rounds succeed, with a result.

## Theorems

* `writes_component`: A tree is written as it is drawn.
* `page_follows_latest`: What a page of sidebar components shows.
* `page_signs_ne_enclosed`: Two sidebars of which one overtakes the other.
-/

namespace DashKit

variable {σ α β γ : Type}

/-! ## Sessions That Grow -/

namespace Session

/-- The place of a sidebar, if there is one, is that of a fresh sidebar with these
    options. -/
def Holds (sidebars : List (SidebarContext σ)) : Option Nat → Option SidebarOptions → Prop :=
  Option.Rel fun place options => ∃ storage, sidebars[place]? = some ⟨.fresh options, storage⟩

/-- A path is found from the current owner. The owner has a sidebar with options of
    its own, and outside of it one with other options is found. Either may be
    missing. -/
structure Stands (session : Session σ) (path : String) (own outer : Option SidebarOptions) :
    Prop where
  path : session.path? = some path
  own : Holds session.sidebars session.owner.sidebar own
  outer : Holds session.sidebars (session.ancestors.findSome? Owner.sidebar) outer

/-- Sidebars were added, and nothing else changed outside of the current owner. -/
structure Grown (before after : Session σ) : Prop where
  sidebars : before.sidebars <+: after.sidebars
  ancestors : after.ancestors = before.ancestors
  world : after.world = before.world

theorem Grown.refl (session : Session σ) : Grown session session :=
  ⟨List.prefix_rfl, rfl, rfl⟩

theorem Grown.trans {first second third : Session σ} (h : Grown first second)
    (h' : Grown second third) : Grown first third :=
  ⟨h.sidebars.trans h'.sidebars, h'.ancestors.trans h.ancestors, h'.world.trans h.world⟩

/-- A sidebar keeps its place. -/
theorem Holds.added {before after : List (SidebarContext σ)} {place : Option Nat}
    {options : Option SidebarOptions} (h : Holds before place options) (hadded : before <+: after) :
    Holds after place options := by
  rcases hadded with ⟨added, rfl⟩
  cases h with
  | none => exact .none
  | some h =>
      rcases h with ⟨storage, hplace⟩
      -- New sidebars stand behind the old ones.
      have hlt := (List.getElem?_eq_some_iff.mp hplace).1
      exact .some ⟨storage, by rw [List.getElem?_append_left hlt, hplace]⟩

/-- What is found is the owner's own sidebar, or else the one outside. -/
theorem Stands.found {session : Session σ} {path : String} {own outer : Option SidebarOptions}
    (h : Stands session path own outer) :
    Holds session.sidebars session.sidebar? (own.or outer) := by
  have hown := h.own
  rw [sidebar?, owners, List.findSome?_cons]
  generalize session.owner.sidebar = place at hown
  cases hown with
  | none => exact h.outer
  | some hplace => exact .some hplace

/-- A new owner has no sidebar of its own. -/
theorem Stands.enter {session : Session σ} {path : String} {own outer : Option SidebarOptions}
    (h : Stands session path own outer) :
    Stands (step .enter session).2 path none (own.or outer) :=
  ⟨h.path, .none, h.found⟩

/-- A sidebar that is provided becomes the owner's own, and another that the owner
    had is not found any more. -/
theorem Stands.provideSidebar {session : Session σ} {path : String}
    {own outer : Option SidebarOptions} (h : Stands session path own outer)
    (options : SidebarOptions) (storage : Storage σ) :
    Stands (step (.provideSidebar options storage) session).2 path (some options) outer where
  path := h.path
  own := .some ⟨storage, List.getElem?_concat_length⟩
  outer := h.outer.added (List.prefix_append _ _)

theorem sidebars_leave (session : Session σ) :
    (step .leave session).2.sidebars = session.sidebars := by
  rw [step]
  cases session.ancestors <;> rfl

theorem grown_provideSidebar (session : Session σ) (options : SidebarOptions)
    (storage : Storage σ) :
    Grown session (step (.provideSidebar options storage) session).2 :=
  ⟨List.prefix_append _ _, rfl, rfl⟩

/-- When a new owner is left, the owner around it stands as before. -/
theorem Stands.leave {session inside : Session σ} {path : String}
    {own outer : Option SidebarOptions} (h : Stands session path own outer)
    (hgrown : Grown (step .enter session).2 inside) :
    Stands (step .leave inside).2 path own outer ∧ Grown session (step .leave inside).2 := by
  -- What the work did inside it did to the new owner, which is given up here.
  have hancestors : inside.ancestors = session.owner :: session.ancestors := hgrown.ancestors
  have hsidebars : session.sidebars <+: inside.sidebars := hgrown.sidebars
  simp only [step, hancestors]
  exact ⟨⟨h.path, h.own.added hsidebars, h.outer.added hsidebars⟩, hsidebars, rfl, hgrown.world⟩

/-- An owner that is current again has the sidebar it was left with, and outside of
    it whatever is found by now. -/
theorem Stands.reenter {inside later : Session σ} {path : String}
    {own own' outer outer' : Option SidebarOptions} (hinside : Stands inside path own outer)
    (hadded : inside.sidebars <+: later.sidebars) (h : Stands later path own' outer') :
    Stands (later.reenter inside.owner) path own (own'.or outer') where
  path := by
    -- The path is either the owner's own or found further up, both times.
    have hpath : (inside.owner :: inside.ancestors).findSome? Owner.path = some path := hinside.path
    rw [List.findSome?_cons] at hpath
    change (inside.owner :: later.owners).findSome? Owner.path = some path
    rw [List.findSome?_cons]
    cases hown : inside.owner.path with
    | none => exact h.path
    | some other => rwa [hown] at hpath
  own := hinside.own.added hadded
  outer := h.found

end Session

/-! ## Work in Two Rounds -/

/-- Work after work that succeeded. -/
theorem Build.bind_ok {work : Build σ α} {next : α → Build σ β} {session after : Session σ}
    {a : α} (h : work session = .ok (a, after)) : (work >>= next) session = next a after := by
  simp only [bind, StateT.bind, h, Except.bind]

theorem Build.map_ok {work : Build σ α} {f : α → β} {session after : Session σ} {a : α}
    (h : work session = .ok (a, after)) : (f <$> work) session = .ok (f a, after) := by
  simp only [Functor.map, StateT.map, bind, Except.bind, h, pure, Except.pure]

namespace Staged

open Session

/-- The second round of work that is ready. From every session with more sidebars
    in which these options are found, it succeeds with a result. It leaves
    this provider behind in the owner, if it sets one up. -/
def Finishes (next : Build σ α) (ready : Session σ) (path : String)
    (found second : Option SidebarOptions) (a : α) : Prop :=
  ∀ (reached : Session σ) (own outer : Option SidebarOptions),
    ready.sidebars <+: reached.sidebars → Stands reached path own outer → own.or outer = found →
    ∃ final, next reached = .ok (a, final) ∧ Grown reached final ∧
      Stands final path (second.or own) outer

/-- Both rounds of work succeed, the first from a session, and the second where the
    given options are found. Each leaves a provider behind in the owner, if it sets
    one up. -/
def Writes (work : Staged σ α) (session : Session σ) (path : String)
    (own outer found first second : Option SidebarOptions) (a : α) : Prop :=
  ∃ next ready, work session = .ok (next, ready) ∧ Grown session ready ∧
    Stands ready path (first.or own) outer ∧ Finishes next ready path found second a

variable {session : Session σ} {path : String}
  {own outer found first second first' second' : Option SidebarOptions}

theorem Writes.done (h : Stands session path own outer) (a : α) :
    Writes (.done a) session path own outer found none none a := by
  refine ⟨pure a, session, rfl, .refl session, h, ?_⟩
  intro reached own' outer' _ hstands _
  exact ⟨reached, rfl, .refl reached, hstands⟩

theorem Writes.map {work : Staged σ α} {a : α} (f : α → β)
    (h : Writes work session path own outer found first second a) :
    Writes (work.map f) session path own outer found first second (f a) := by
  rcases h with ⟨next, ready, hfirst, hgrown, hready, hsecond⟩
  refine ⟨f <$> next, ready, Build.bind_ok hfirst, hgrown, hready, ?_⟩
  intro reached own' outer' hadded hstands hfound
  rcases hsecond reached own' outer' hadded hstands hfound with ⟨final, hrun, hfinal⟩
  exact ⟨final, Build.map_ok hrun, hfinal⟩

/-- The other work is set up where the first round of the one has left the owner,
    and written where its second round has. -/
theorem Writes.both {one : Staged σ α} {other : Staged σ β} {a : α} {b : β} (f : α → β → γ)
    (h : Writes one session path own outer found first second a)
    (h' : ∀ after, Grown session after → Stands after path (first.or own) outer →
      Writes other after path (first.or own) outer (second.or found) first' second' b) :
    Writes (.both f one other) session path own outer found (first'.or first)
      (second'.or second) (f a b) := by
  rcases h with ⟨next, ready, hfirst, hgrown, hready, hsecond⟩
  rcases h' ready hgrown hready with ⟨next', ready', hfirst', hgrown', hready', hsecond'⟩
  rw [← Option.or_assoc] at hready'
  refine ⟨do return f (← next) (← next'), ready',
    (Build.bind_ok hfirst).trans (Build.bind_ok hfirst'), hgrown.trans hgrown', hready', ?_⟩
  intro reached own' outer' hadded hstands hfound
  -- The one is written after the other was set up, the other after the one was written.
  rcases hsecond reached own' outer' (hgrown'.sidebars.trans hadded) hstands hfound with
    ⟨middle, hrun, hmiddle, hstands'⟩
  have hsame : (second.or own').or outer' = second.or found := by
    rw [Option.or_assoc, hfound]
  rcases hsecond' middle (second.or own') outer' (hadded.trans hmiddle.sidebars) hstands' hsame
    with ⟨final, hrun', hfinal, hstands''⟩
  rw [← Option.or_assoc] at hstands''
  exact ⟨final, (Build.bind_ok hrun).trans (Build.bind_ok hrun'), hmiddle.trans hfinal, hstands''⟩

/-- Both rounds at once. The second finds what the first has set up. -/
theorem Writes.run {work : Staged σ α} {a : α}
    (h : Writes work session path own outer (first.or (own.or outer)) first second a) :
    ∃ final, work.run session = .ok (a, final) ∧ Grown session final ∧
      Stands final path ((second.or first).or own) outer := by
  rcases h with ⟨next, ready, hfirst, hgrown, hready, hsecond⟩
  -- In front of the second round stands what the first has left.
  have hsame : (first.or own).or outer = first.or (own.or outer) := Option.or_assoc
  rcases hsecond ready (first.or own) outer List.prefix_rfl hready hsame with
    ⟨final, hrun, hfinal, hstands⟩
  rw [← Option.or_assoc] at hstands
  exact ⟨final, (Build.bind_ok hfirst).trans hrun, hgrown.trans hfinal, hstands⟩

/-- Work that waits sets nothing up in the first round, and everything in the
    second. -/
theorem Writes.later {work : Staged σ α} {a : α} (h : Stands session path own outer)
    (hwork : ∀ (reached : Session σ) (own' outer' : Option SidebarOptions),
      Stands reached path own' outer' → own'.or outer' = found →
      Writes work reached path own' outer' (first.or found) first second a) :
    Writes work.later session path own outer found none (second.or first) a := by
  refine ⟨work.run, session, rfl, .refl session, h, ?_⟩
  intro reached own' outer' _ hstands hfound
  -- The second round of the work that waits runs both rounds of the work.
  have hrounds := hwork reached own' outer' hstands hfound
  rw [← hfound] at hrounds
  exact hrounds.run

/-- Work after something was provided in the current owner, perhaps a sidebar. -/
theorem Writes.after {provide : Build σ Unit} {work : Staged σ α} {provided : Session σ} {a : α}
    {set : Option SidebarOptions} (h : provide session = .ok ((), provided))
    (hprovided : Grown session provided)
    (hwork : Writes work provided path (set.or own) outer found first second a) :
    Writes (.after provide work) session path own outer found (first.or set) second a := by
  rcases hwork with ⟨next, ready, hfirst, hgrown, hready, hsecond⟩
  rw [← Option.or_assoc] at hready
  exact ⟨next, ready, (Build.bind_ok h).trans hfirst, hprovided.trans hgrown, hready, hsecond⟩

/-- The second round in an owner that was left. Inside there is still what the first
    round has set up there, and outside nothing is left behind. -/
theorem Finishes.owned {next : Build σ α} {inside : Session σ} {a : α}
    (hinside : Stands inside path first outer)
    (h : Finishes next inside path (first.or found) second a) :
    Finishes
      (do
        modify fun session => session.reenter inside.owner
        let a ← next
        Build.command .leave
        return a)
      (step .leave inside).2 path found none a := by
  intro reached own' outer' hadded hstands hfound
  rw [sidebars_leave] at hadded
  -- The owner is current again, with its own sidebar and whatever is outside by now.
  have hagain := hinside.reenter hadded hstands
  have hsame : first.or (own'.or outer') = first.or found := by rw [hfound]
  rcases h (reached.reenter inside.owner) first (own'.or outer') hadded hagain hsame with
    ⟨final, hrun, hgrown, -⟩
  have hentered : Grown (step .enter reached).2 final :=
    ⟨hgrown.sidebars, hgrown.ancestors, hgrown.world⟩
  rcases hstands.leave hentered with ⟨hleft, hgrown'⟩
  refine ⟨(step .leave final).2, ?_, hgrown', hleft⟩
  exact (Build.bind_ok rfl).trans ((Build.bind_ok hrun).trans (Build.bind_ok rfl))

/-- Work in an owner of its own. What it sets up is found inside, in both rounds,
    and by nothing outside. -/
theorem Writes.owned {work : Staged σ α} {a : α} (h : Stands session path own outer)
    (hwork : Writes work (step .enter session).2 path none (own.or outer) (first.or found) first
      second a) :
    Writes (.owned work) session path own outer found none none a := by
  rcases hwork with ⟨next, inside, hfirst, hgrown, hinside, hsecond⟩
  rw [Option.or_none] at hinside
  rcases h.leave hgrown with ⟨hleft, hready⟩
  refine ⟨_, (step .leave inside).2, ?_, hready, hleft, Finishes.owned hinside hsecond⟩
  -- Entering, the work, keeping the owner, and leaving.
  exact (Build.bind_ok rfl).trans ((Build.bind_ok hfirst).trans ((Build.bind_ok rfl).trans
    (Build.bind_ok rfl)))

/-- The sidebar that is found at once is read as it started, whatever has been set
    up by then. -/
theorem Writes.sidebar {options : SidebarOptions} (h : Stands session path own outer)
    (hfound : own.or outer = some options) :
    Writes .sidebar session path own outer found none none (.fresh options) := by
  have hholds := h.found
  rw [hfound] at hholds
  generalize hplace : session.sidebar? = place at hholds
  cases hholds with
  | some hcontext =>
      rename_i place
      have hlook : Build.need Session.sidebar? Build.noSidebar session = .ok (place, session) := by
        simp only [Build.need, hplace]
      refine ⟨Build.readSidebar place, session, Build.bind_ok hlook, .refl session, h, ?_⟩
      intro reached own' outer' hadded hstands _
      -- The place is the same, and other sidebars stand behind it.
      have hstill : Holds reached.sidebars (some place) (some options) :=
        Holds.added (.some hcontext) hadded
      cases hstill with
      | some hstill =>
          rcases hstill with ⟨storage, hcontext⟩
          refine ⟨reached, ?_, .refl reached, hstands⟩
          simp only [Build.readSidebar, Build.need, hcontext, Option.map_some]

/-- Work beside a component that finds a sidebar and sets nothing up. -/
theorem Writes.withSidebar {other : Staged σ β} {options : SidebarOptions} {b : β}
    (f : Sidebar → β → γ) (h : Stands session path own outer) (hfound : own.or outer = some options)
    (h' : ∀ after, Stands after path own outer →
      Writes other after path own outer found first second b) :
    Writes (.both f .sidebar other) session path own outer found first second
      (f (.fresh options) b) := by
  -- The component reads its sidebar and adds nothing to either round.
  have hsidebar : Writes .sidebar session path own outer found none none (.fresh options) :=
    .sidebar h hfound
  have hboth := hsidebar.both f fun after _ hafter => h' after hafter
  rwa [Option.or_none, Option.or_none] at hboth

theorem Writes.request (h : Stands session path own outer) :
    Writes .path session path own outer found none none path := by
  have hlook : Build.need Session.path? .noRouter session = .ok (path, session) := by
    simp only [Build.need, h.path]
  refine ⟨pure path, session, Build.bind_ok hlook, .refl session, h, ?_⟩
  intro reached own' outer' _ hstands _
  exact ⟨reached, rfl, .refl reached, hstands⟩

end Staged

/-! ## Pages -/

namespace SidebarTree

open Session Staged

variable {path : String}

mutual

/-- A tree is written as it is drawn, where one provider is found in front of its
    first round and one in front of its second. It leaves the latest provider of
    each round behind. -/
theorem writes_component {found later own outer : Option SidebarOptions}
    (around : Option SidebarOptions) (session : Session σ)
    (hstands : Stands session path own outer) (hown : own.or outer = found) :
    ∀ tree : SidebarTree σ, (∀ part ∈ tree.parts around found later, part.isFound) →
      Writes (Component.build tree.component) session path own outer later tree.latest
        tree.latestWritten (tree.drawn path found later)
  | provider options startsOpen storage children, hfound => by
      have hprovided := hstands.provideSidebar (Component.effectiveOptions options startsOpen)
        storage
      rw [component, Component.build, latest, latestWritten, drawn]
      refine .after rfl (grown_provideSidebar session _ storage) ?_
      -- The wrapper finds its sidebar, which nothing has overtaken yet.
      refine .withSidebar (fun sidebar nodes => [wrapperHtml sidebar nodes]) hprovided
        (Option.some_or ..) ?_
      intro after hafter
      exact writes_components _ after hafter (Option.some_or ..) children
        fun part h => hfound part (List.mem_cons_of_mem _ h)
  | panel children, hfound => by
      have hpanel : found.isSome := hfound _ List.mem_cons_self
      rcases Option.isSome_iff_exists.mp hpanel with ⟨options, rfl⟩
      rw [component, Component.build, latest, latestWritten, drawn]
      refine .withSidebar (fun sidebar nodes => [sidebarHtml sidebar nodes]) hstands hown ?_
      intro after hafter
      -- By the time the children are set up, everything behind the panel has been.
      refine .later hafter ?_
      intro reached own' outer' hreached hown'
      exact writes_components around reached hreached hown' children
        fun part h => hfound part (List.mem_cons_of_mem _ h)
  | menu children, hfound => by
      rw [component, DashKit.menu, boxed, Component.build, latest, latestWritten, drawn]
      exact (writes_components around session hstands hown children hfound).map _
  | inset children, hfound => by
      rw [component, DashKit.inset, boxed, Component.build, latest, latestWritten, drawn]
      exact (writes_components around session hstands hown children hfound).map _
  | scope children, hfound => by
      rw [component, Component.build, latest, latestWritten, drawn]
      -- Inside nothing is the owner's own at first, and outside is what was found before.
      have hinside := writes_components around _ hstands.enter (by rw [Option.none_or, hown])
        children hfound
      exact .owned hstands hinside
  | item label href icon, hfound => by
      have hitem : found.isSome := hfound _ (List.mem_singleton_self _)
      rcases Option.isSome_iff_exists.mp hitem with ⟨options, rfl⟩
      rw [component, Component.build, latest, latestWritten, drawn]
      exact .withSidebar (fun sidebar path => [menuItemHtml sidebar path label href icon])
        hstands hown fun after hafter => .request hafter
  | trigger, hfound => by
      have htrigger : found.isSome := hfound _ (List.mem_singleton_self _)
      rcases Option.isSome_iff_exists.mp htrigger with ⟨options, rfl⟩
      rw [component, Component.build, latest, latestWritten, drawn]
      exact (Writes.sidebar hstands hown).map fun sidebar => [triggerHtml sidebar]

/-- Trees are written one after another, and each finds what those in front of it
    have left behind. -/
theorem writes_components {found later own outer : Option SidebarOptions}
    (around : Option SidebarOptions) (session : Session σ)
    (hstands : Stands session path own outer) (hown : own.or outer = found) :
    ∀ trees : List (SidebarTree σ), (∀ part ∈ partsAll around found later trees, part.isFound) →
      Writes (Component.buildAll (components trees)) session path own outer later
        (latestAll trees) (latestWrittenAll trees) (drawnAll path found later trees)
  | [], _ => by
      rw [components, Component.buildAll, latestAll, latestWrittenAll, drawnAll]
      exact .done hstands []
  | tree :: trees, hfound => by
      rw [components, Component.buildAll, latestAll, latestWrittenAll, drawnAll]
      have hfirst := writes_component around session hstands hown tree
        fun part h => hfound part (List.mem_append_left _ h)
      refine .both (· ++ ·) hfirst ?_
      intro after _ hafter
      exact writes_components around after hafter (by rw [Option.or_assoc, hown]) trees
        fun part h => hfound part (List.mem_append_right _ h)

end

/-- A page of trees inside a router is drawn, and leaves the world alone. -/
theorem page_eq_drawnAll (trees : List (SidebarTree σ)) {request : String}
    (address : pathname request = .ok path) (hfound : ∀ part ∈ pageParts trees, part.isFound)
    (world : σ) :
    Component.page [.router request (components trees)] world =
      .ok (drawnAll path none (latestAll trees) trees, world) := by
  -- The router provides its path at the root, where there is no sidebar.
  have hroot : Stands (({ world } : Session σ).providePath path) path none none :=
    ⟨rfl, .none, .none⟩
  have hprovided : Build.provideRequest request { world } =
      .ok ((), ({ world } : Session σ).providePath path) := by
    simp only [Build.provideRequest, address]
  have htrees : Writes (Component.buildAll (components trees))
      (({ world } : Session σ).providePath path) path (none.or none) none (latestAll trees)
      (latestAll trees) (latestWrittenAll trees) (drawnAll path none (latestAll trees) trees) :=
    writes_components none _ hroot rfl trees hfound
  have hrouter : Writes (Component.build (.router request (components trees))) { world } path none
      none (latestAll trees) ((latestAll trees).or none) (latestWrittenAll trees)
      (drawnAll path none (latestAll trees) trees) :=
    .after hprovided ⟨List.prefix_rfl, rfl, rfl⟩ htrees
  have hpage := hrouter.both (· ++ ·) fun after _ hafter => Writes.done hafter []
  rw [Option.or_none, Option.none_or, List.append_nil] at hpage
  -- The second round starts where the first has left the last provider of the page.
  have hrounds : Writes (Component.buildAll [.router request (components trees)]) { world } path
      none none ((latestAll trees).or (none.or none)) (latestAll trees)
      (none.or (latestWrittenAll trees)) (drawnAll path none (latestAll trees) trees) := by
    rw [Option.or_none, Option.or_none]
    exact hpage
  rcases hrounds.run with ⟨final, hrun, hgrown, -⟩
  simp only [Component.page, hrun, hgrown.world]

/-- A page of placed trees shows what its parts show. -/
theorem page_signs (trees : List (SidebarTree σ)) {request : String}
    (address : pathname request = .ok path) (placed : ∀ part ∈ pageParts trees, part.isPlaced)
    (world : σ) :
    ∃ nodes, Component.page [.router request (components trees)] world = .ok (nodes, world) ∧
      Html.signsAll none nodes = (pageParts trees).flatMap Part.signs := by
  have hfound : ∀ part ∈ pageParts trees, part.isFound :=
    fun part hpart => isFound_of_isPlaced hpart (placed part hpart)
  refine ⟨_, page_eq_drawnAll trees address hfound world, ?_⟩
  exact signsAll_drawnAll path none none (latestAll trees) trees hfound

/-- A page of placed trees with an owner around each provider shows what the
    providers around its parts say. -/
theorem page_isolated_signs (trees : List (SidebarTree σ)) {request : String}
    (address : pathname request = .ok path) (placed : ∀ part ∈ pageParts trees, part.isPlaced)
    (world : σ) :
    ∃ nodes,
      Component.page [.router request (components (isolatedAll trees))] world =
        .ok (nodes, world) ∧
      Html.signsAll none nodes = (pageParts trees).flatMap fun part => part.enclosed.signs := by
  -- Parts stay where they are when owners are put around providers.
  have hplaced : ∀ part ∈ pageParts (isolatedAll trees), part.isPlaced := by
    rw [pageParts_isolatedAll, List.forall_mem_map]
    intro part hpart
    rw [Part.isPlaced_enclosed]
    exact placed part hpart
  rcases page_signs (isolatedAll trees) address hplaced world with ⟨nodes, hpage, hsigns⟩
  rw [pageParts_isolatedAll, List.flatMap_map] at hsigns
  exact ⟨nodes, hpage, hsigns⟩

/-- Every component of a sidebar follows the provider that was set up last in its
    owner when it is set up itself. A page of such components inside a router is
    always written and never has a drawer. Its wrappers, panels, menus and triggers
    show what the providers around them say exactly if every component agrees with
    the provider that it finds: then each panel shows what its wrapper shows. With
    an owner around each provider this is so for all trees. The title of a trigger
    names a shortcut exactly where it is enabled. -/
theorem page_follows_latest (trees : List (SidebarTree σ)) {request : String}
    (address : pathname request = .ok path) (placed : ∀ part ∈ pageParts trees, part.isPlaced)
    (world : σ) :
    (∃ nodes,
      Component.page [.router request (components trees)] world = .ok (nodes, world) ∧
      Component.render [.router request (components trees)] world =
        .ok (Html.writeAll nodes, world) ∧
      Html.signsAll none nodes = (pageParts trees).flatMap Part.signs ∧
      (∀ sign ∈ Html.signsAll none nodes, sign.mark ≠ .drawer) ∧
      ((Html.signsAll none nodes = (pageParts trees).flatMap fun part => part.enclosed.signs) ↔
        ∀ part ∈ pageParts trees, part.agrees = true)) ∧
    (∃ nodes,
      Component.page [.router request (components (isolatedAll trees))] world =
        .ok (nodes, world) ∧
      Html.signsAll none nodes = (pageParts trees).flatMap fun part => part.enclosed.signs) ∧
    (∀ part ∈ pageParts trees, ∀ sign ∈ part.enclosed.signs, ∀ state,
      sign.mark = .panel state → state = sign.wrapper) ∧
    ∀ options : SidebarOptions, options.shortcut.caption.toList <:+: (triggerTitle options).toList ↔
      options.shortcutEnabled = true := by
  rcases page_signs trees address placed world with ⟨nodes, hpage, hsigns⟩
  refine ⟨⟨nodes, hpage, ?_, hsigns, ?_, ?_⟩, page_isolated_signs trees address placed world,
    fun _ _ _ hsign _ => Part.eq_wrapper_of_mem_enclosed hsign, caption_infix_triggerTitle⟩
  · simp only [Component.render, hpage]
  · intro sign hsign
    rw [hsigns] at hsign
    rcases List.mem_flatMap.mp hsign with ⟨part, -, hpart⟩
    exact Part.ne_drawer_of_mem_signs hpart
  · rw [hsigns]
    exact signs_eq_enclosed_iff placed
      fun part hpart => isFound_of_isPlaced hpart (placed part hpart)

/-- A collapsed sidebar inside the panel of an open one, which has a trigger
    after it, and a third sidebar beside them. -/
def nestedTrees : List (SidebarTree Unit) :=
  [.provider {} none .disabled
    [.panel
      [.menu [.item "Inbox" "/inbox" "i"],
        .provider { shortcutEnabled := false } (some false) .disabled
          [.panel [.menu [.item "Drafts" "/drafts" "d"]], .inset [.trigger]],
        .menu [.item "Sent" "/sent" "s"]],
      .inset [.trigger]],
    .provider { startsOpen := false } none .disabled [.inset [.trigger], .panel []]]

/-- All sidebars are set up by the time the menus are. So the third one hides the
    labels of the first, which are shown again with an owner around each provider. -/
theorem page_follows_latest_nested :
    pathname "/inbox?page=2" = .ok "/inbox" ∧
    (∀ part ∈ pageParts nestedTrees, part.isPlaced) ∧
    (∃ nodes, Component.page [.router "/inbox?page=2" (components nestedTrees)] () =
        .ok (nodes, ()) ∧
      Html.signsAll none nodes =
        [⟨none, .wrapper (some "expanded")⟩,
          ⟨some "expanded", .panel (some "expanded")⟩,
          ⟨some "expanded", .item (some "Inbox")⟩, ⟨some "expanded", .label true⟩,
          ⟨some "expanded", .wrapper (some "collapsed")⟩,
          ⟨some "collapsed", .panel (some "collapsed")⟩,
          ⟨some "collapsed", .item (some "Drafts")⟩, ⟨some "collapsed", .label true⟩,
          ⟨some "collapsed", .trigger (some "Toggle sidebar")⟩,
          ⟨some "expanded", .item (some "Sent")⟩, ⟨some "expanded", .label true⟩,
          ⟨some "expanded", .trigger (some "Toggle sidebar (Ctrl/Cmd + B)")⟩,
          ⟨none, .wrapper (some "collapsed")⟩,
          ⟨some "collapsed", .trigger (some "Toggle sidebar (Ctrl/Cmd + B)")⟩,
          ⟨some "collapsed", .panel (some "collapsed")⟩]) ∧
    ∃ nodes, Component.page [.router "/inbox?page=2" (components (isolatedAll nestedTrees))] () =
        .ok (nodes, ()) ∧
      Html.signsAll none nodes =
        [⟨none, .wrapper (some "expanded")⟩,
          ⟨some "expanded", .panel (some "expanded")⟩,
          ⟨some "expanded", .item none⟩, ⟨some "expanded", .label false⟩,
          ⟨some "expanded", .wrapper (some "collapsed")⟩,
          ⟨some "collapsed", .panel (some "collapsed")⟩,
          ⟨some "collapsed", .item (some "Drafts")⟩, ⟨some "collapsed", .label true⟩,
          ⟨some "collapsed", .trigger (some "Toggle sidebar")⟩,
          ⟨some "expanded", .item none⟩, ⟨some "expanded", .label false⟩,
          ⟨some "expanded", .trigger (some "Toggle sidebar (Ctrl/Cmd + B)")⟩,
          ⟨none, .wrapper (some "collapsed")⟩,
          ⟨some "collapsed", .trigger (some "Toggle sidebar (Ctrl/Cmd + B)")⟩,
          ⟨some "collapsed", .panel (some "collapsed")⟩] := by
  have address : pathname "/inbox?page=2" = .ok "/inbox" := rfl
  have placed : ∀ part ∈ pageParts nestedTrees, part.isPlaced := by decide
  rcases page_follows_latest nestedTrees address placed () with
    ⟨⟨nodes, hpage, -, hsigns, -⟩, ⟨others, hothers, hsigns'⟩, -⟩
  refine ⟨address, placed, ⟨nodes, hpage, ?_⟩, others, hothers, ?_⟩
  · rw [hsigns]
    decide
  · rw [hsigns']
    decide

/-- An open sidebar with a collapsed one inside of it, behind its panel and in front
    of its trigger. -/
def insideTrees : List (SidebarTree Unit) :=
  [.provider {} none .disabled
    [.panel [.menu [.item "Inbox" "/inbox" "i"]],
      .provider { shortcutEnabled := false } (some false) .disabled [],
      .trigger]]

/-- An open sidebar and a collapsed one beside it. -/
def besideTrees : List (SidebarTree Unit) :=
  [.provider {} none .disabled [.panel [.menu [.item "Inbox" "/inbox" "i"]]],
    .provider { startsOpen := false } none .disabled [.panel []]]

/-- A second sidebar is enough to hide the labels in the open panel of the first,
    whether it stands inside of the first or beside it. Inside it also takes the
    shortcut out of the trigger's title. -/
theorem page_signs_ne_enclosed :
    pathname "/inbox" = .ok "/inbox" ∧
    (∀ part ∈ pageParts insideTrees, part.isPlaced) ∧
    (∀ part ∈ pageParts besideTrees, part.isPlaced) ∧
    (∃ nodes, Component.page [.router "/inbox" (components insideTrees)] () = .ok (nodes, ()) ∧
      Html.signsAll none nodes =
        [⟨none, .wrapper (some "expanded")⟩, ⟨some "expanded", .panel (some "expanded")⟩,
          ⟨some "expanded", .item (some "Inbox")⟩, ⟨some "expanded", .label true⟩,
          ⟨some "expanded", .wrapper (some "collapsed")⟩,
          ⟨some "expanded", .trigger (some "Toggle sidebar")⟩] ∧
      Html.signsAll none nodes ≠
        (pageParts insideTrees).flatMap fun part => part.enclosed.signs) ∧
    ∃ nodes, Component.page [.router "/inbox" (components besideTrees)] () = .ok (nodes, ()) ∧
      Html.signsAll none nodes =
        [⟨none, .wrapper (some "expanded")⟩, ⟨some "expanded", .panel (some "expanded")⟩,
          ⟨some "expanded", .item (some "Inbox")⟩, ⟨some "expanded", .label true⟩,
          ⟨none, .wrapper (some "collapsed")⟩, ⟨some "collapsed", .panel (some "collapsed")⟩] ∧
      Html.signsAll none nodes ≠
        (pageParts besideTrees).flatMap fun part => part.enclosed.signs := by
  have address : pathname "/inbox" = .ok "/inbox" := rfl
  have hinside : ∀ part ∈ pageParts insideTrees, part.isPlaced := by decide
  have hbeside : ∀ part ∈ pageParts besideTrees, part.isPlaced := by decide
  rcases page_signs insideTrees address hinside () with ⟨nodes, hpage, hsigns⟩
  rcases page_signs besideTrees address hbeside () with ⟨others, hothers, hsigns'⟩
  refine ⟨address, hinside, hbeside, ⟨nodes, hpage, ?_, ?_⟩, others, hothers, ?_, ?_⟩
  · rw [hsigns]
    decide
  · rw [hsigns]
    decide
  · rw [hsigns']
    decide
  · rw [hsigns']
    decide

end SidebarTree

end DashKit
