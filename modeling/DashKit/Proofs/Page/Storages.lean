import DashKit.Page.App

/-!
# Pages That Look at No Storage

A server writes the same page whatever the providers of its tree may find
stored, and calls none of their storages.

The storages of a tree are taken out of it and handed to it from outside, by
the positions of its providers, over a world of their own behind the world of
the hosts (`Component.furnished`). Work on the furnished tree is then compared
with work on the bare one, step by step: the sessions differ in the storages
that their sidebars hold and in nothing else (`Session.Furnished`), and works
that start from such sessions end at the same component, or with the same
nodes in such sessions again (`Build.Follows`). Every way of putting work
together keeps to that, in both rounds, so every tree does.

The relation speaks of the stored world as a whole, and says that it stays.
Nothing is assumed of a storage, so it may count or record its calls in that
world; a record that is as long as before shows that there were none.

It is the components that make this true, not the sessions. A sidebar that
something is done to on the way would save, or show what it found, so such
trees are left out (`Component.isServed`). The pages of the kit have none.

## Main definitions

* `Session.Furnished`: Sessions that differ in storages and what is stored.
* `Build.Follows`, `Staged.Follows`: Works that end alike from such sessions.
* `Component.furnished`: A tree with storages by position.
* `Component.isServed`: Nothing is done to a sidebar while a tree is set up.

## Theorems

* `Staged.Follows.owned`: Scopes are worked on alike.
* `follows_build`: A tree is worked on alike with any storages.
* `areServed_document`: The pages of the kit are made of served components.
* `render_ignores_storages`: The page depends on no storage and calls none.
-/

namespace DashKit

variable {α σ A B C D : Type}

/-! ## Worlds in Two Parts -/

/-- The same source over a world whose second part is not its own. -/
def SchemeSource.onFirst (source : SchemeSource α) : SchemeSource (α × σ) where
  prefersDark world :=
    let (dark, host) := source.prefersDark world.1
    (dark, host, world.2)

/-- The same storage over a world whose first part is not its own. -/
def Storage.onSecond (storage : Storage σ) : Storage (α × σ) where
  load key world :=
    let (found, stored) := storage.load key world.2
    (found, world.1, stored)
  save key value world := (world.1, storage.save key value world.2)

/-- The same design over a world whose second part is not its own. -/
def DesignContext.onFirst (context : DesignContext α) : DesignContext (α × σ) :=
  ⟨context.preferences, context.source.onFirst⟩

theorem Preferences.scheme_onFirst (p : Preferences) (source : SchemeSource α) (host : α)
    (stored : σ) :
    p.scheme source.onFirst (host, stored) =
      ((p.scheme source host).1, (p.scheme source host).2, stored) := by
  unfold scheme
  -- Only a theme that is left to the host asks it.
  cases p.theme <;> rfl

namespace Session

/-- A session that differs from another in the storages of its sidebars, and
    has the world that they store in behind the other's. -/
structure Furnished (stored : σ) (plain : Session α) (full : Session (α × σ)) : Prop where
  designs : full.designs = plain.designs.map DesignContext.onFirst
  sidebars : full.sidebars.map SidebarContext.sidebar = plain.sidebars.map SidebarContext.sidebar
  owner : full.owner = plain.owner
  ancestors : full.ancestors = plain.ancestors
  world : full.world = (plain.world, stored)

variable {stored : σ} {plain : Session α} {full : Session (α × σ)}

theorem Furnished.owners_eq (h : Furnished stored plain full) : full.owners = plain.owners := by
  rw [owners, owners, h.owner, h.ancestors]

theorem Furnished.enter (h : Furnished stored plain full) :
    Furnished stored (step .enter plain).2 (step .enter full).2 :=
  ⟨h.designs, h.sidebars, rfl, h.owners_eq, h.world⟩

theorem Furnished.leave (h : Furnished stored plain full) :
    Furnished stored (step .leave plain).2 (step .leave full).2 := by
  -- Leaving the outermost owner does nothing, in both sessions.
  have ha := h.ancestors
  simp only [step]
  cases hp : plain.ancestors with
  | nil =>
      rw [ha.trans hp]
      exact h
  | cons parent ancestors =>
      rw [ha.trans hp]
      exact ⟨h.designs, h.sidebars, rfl, rfl, h.world⟩

theorem Furnished.provideDesign (h : Furnished stored plain full) (options : ProviderOptions)
    (source : SchemeSource α) :
    Furnished stored (step (.provideDesign options source) plain).2
      (step (.provideDesign options source.onFirst) full).2 where
  designs := by simp [step, h.designs, DesignContext.onFirst]
  sidebars := h.sidebars
  owner := by simp only [step, h.designs, List.length_map, h.owner]
  ancestors := h.ancestors
  world := h.world

theorem Furnished.provideSidebar (h : Furnished stored plain full) (options : SidebarOptions)
    (storage : Storage α) (other : Storage (α × σ)) :
    Furnished stored (step (.provideSidebar options storage) plain).2
      (step (.provideSidebar options other) full).2 where
  designs := h.designs
  sidebars := by simp only [step, List.map_append, h.sidebars, List.map_cons, List.map_nil]
  owner := by
    -- The new sidebar has the same number in both, as both have as many in front of it.
    have hlength := congrArg List.length h.sidebars
    rw [List.length_map, List.length_map] at hlength
    simp only [step, hlength, h.owner]
  ancestors := h.ancestors
  world := h.world

theorem Furnished.reenter (h : Furnished stored plain full) {child child' : Owner}
    (hchild : child' = child) :
    Furnished stored (plain.reenter child) (full.reenter child') :=
  ⟨h.designs, h.sidebars, hchild, h.owners_eq, h.world⟩

end Session

/-! ## Work That Follows Other Work -/

namespace Build

open Session

/-- Two works ended alike: at the same component, or with related results in
    related sessions. -/
inductive Alike (stored : σ) (R : A → B → Prop) :
    Except Misplaced (A × Session α) → Except Misplaced (B × Session (α × σ)) → Prop
  | failed (misplaced : Misplaced) : Alike stored R (.error misplaced) (.error misplaced)
  | made {a : A} {b : B} {plain : Session α} {full : Session (α × σ)} :
      R a b → Furnished stored plain full → Alike stored R (.ok (a, plain)) (.ok (b, full))

/-- Work follows other work if from related sessions they end alike. -/
def Follows (stored : σ) (R : A → B → Prop) (work : Build α A) (full : Build (α × σ) B) : Prop :=
  ∀ before before', Furnished stored before before' →
    Alike stored R (work before) (full before')

variable {stored : σ} {R : A → B → Prop} {S : C → D → Prop}

theorem Follows.pure {a : A} {b : B} (h : R a b) :
    Follows stored R (pure a : Build α A) (pure b) :=
  fun _ _ hs => .made h hs

/-- Work goes on from related sessions, if it goes on at all. -/
theorem Follows.bind {work : Build α A} {work' : Build (α × σ) B} {next : A → Build α C}
    {next' : B → Build (α × σ) D} (h : Follows stored R work work')
    (hn : ∀ a b, R a b → Follows stored S (next a) (next' b)) :
    Follows stored S (work >>= next) (work' >>= next') := by
  intro before before' hs
  have hw := h before before' hs
  simp only [Bind.bind, StateT.bind, Except.bind]
  -- Only the two outcomes matter from here on, not how the work came to them.
  generalize work before = outcome at hw ⊢
  generalize work' before' = outcome' at hw ⊢
  cases hw with
  | failed misplaced => exact .failed misplaced
  | made hr hs => exact hn _ _ hr _ _ hs

theorem Follows.map {work : Build α A} {work' : Build (α × σ) B} {f : A → C} {g : B → D}
    (h : Follows stored R work work') (hf : ∀ a b, R a b → S (f a) (g b)) :
    Follows stored S (f <$> work) (g <$> work') := by
  rw [map_eq_pure_bind, map_eq_pure_bind]
  exact h.bind fun a b hr => .pure (hf a b hr)

theorem Follows.get : Follows stored (Furnished stored) (get : Build α (Session α)) get :=
  fun _ _ hs => .made hs hs

theorem Follows.modify {f : Session α → Session α} {g : Session (α × σ) → Session (α × σ)}
    (h : ∀ before before', Furnished stored before before' →
      Furnished stored (f before) (g before')) :
    Follows stored Eq (modify f : Build α Unit) (modify g) :=
  fun before before' hs => .made rfl (h before before' hs)

theorem Follows.leave :
    Follows stored Eq (command .leave : Build α Unit) (command .leave) :=
  .modify fun _ _ hs => hs.leave

/-- What is found in both sessions or in neither, and is related there. -/
theorem Follows.need {found : Session α → Option A} {found' : Session (α × σ) → Option B}
    {misplaced : Misplaced}
    (h : ∀ before before', Furnished stored before before' →
      Option.Rel R (found before) (found' before')) :
    Follows stored R (Build.need found misplaced) (Build.need found' misplaced) := by
  intro before before' hs
  have hf := h before before' hs
  simp only [Build.need]
  generalize found before = a at hf ⊢
  generalize found' before' = b at hf ⊢
  cases hf with
  | none => exact .failed misplaced
  | some hr => exact .made hr hs

/-- What is found by the owners is the same. -/
theorem Follows.needOwned {find : Owner → Option A} {misplaced : Misplaced} :
    Follows stored Eq
      (Build.need (fun session : Session α => session.owners.findSome? find) misplaced)
      (Build.need (fun session => session.owners.findSome? find) misplaced) := by
  refine .need ?_
  intro before before' hs
  -- Owners keep places and not contexts, so they do not know of storages.
  rw [hs.owners_eq]
  cases before.owners.findSome? find with
  | none => exact .none
  | some a => exact .some rfl

theorem Follows.readSidebar (place : Nat) :
    Follows stored Eq (readSidebar place : Build α Sidebar) (readSidebar place) := by
  refine .need ?_
  intro before before' hs
  -- The contexts differ in their storages, but the sidebars in them do not.
  rw [← List.getElem?_map, ← List.getElem?_map, hs.sidebars]
  cases (before.sidebars.map SidebarContext.sidebar)[place]? with
  | none => exact .none
  | some sidebar => exact .some rfl

/-- The host answers both alike, as its part of the world is the same. -/
theorem Follows.readDesign (place : Nat) :
    Follows stored Eq (readDesign place : Build α (Preferences × Scheme)) (readDesign place) := by
  -- The design at a place is the same one, with a host that answers from the first part.
  have hneed : Follows stored (fun context context' => context' = DesignContext.onFirst context)
      (Build.need (fun session : Session α => session.designs[place]?) noDesign)
      (Build.need (fun session => session.designs[place]?) noDesign) := by
    refine .need ?_
    intro before before' hs
    rw [hs.designs, List.getElem?_map]
    cases before.designs[place]? with
    | none => exact .none
    | some context => exact .some rfl
  refine hneed.bind fun context context' hcontext => Follows.get.bind ?_
  intro session session' hs
  subst hcontext
  -- Asking changes at most the part of the world that the host is in.
  have hscheme := context.preferences.scheme_onFirst context.source session.world stored
  rw [← hs.world] at hscheme
  intro before before' _
  refine .made ?_ ⟨hs.designs, hs.sidebars, hs.owner, hs.ancestors, ?_⟩
  · exact congrArg (fun result => (context.preferences, result.1)) hscheme.symm
  · exact congrArg Prod.snd hscheme

theorem Follows.provideRequest (request : String) :
    Follows stored Eq (provideRequest request : Build α Unit) (provideRequest request) := by
  intro before before' hs
  simp only [Build.provideRequest]
  -- The request is read without the session.
  cases pathname request with
  | error fault => exact .failed _
  | ok path =>
      refine .made rfl ⟨hs.designs, hs.sidebars, ?_, hs.ancestors, hs.world⟩
      simp only [Session.providePath, hs.owner]

end Build

namespace Staged

open Session

/-- Work in two rounds follows other work in both of them. -/
def Follows (stored : σ) (R : A → B → Prop) (work : Staged α A) (full : Staged (α × σ) B) : Prop :=
  Build.Follows stored (Build.Follows stored R) work full

variable {stored : σ}

theorem Follows.done (a : A) : Follows stored Eq (done a : Staged α A) (done a) :=
  .pure (.pure rfl)

theorem Follows.found {look : Build α A} {look' : Build (α × σ) A} {read : A → Build α B}
    {read' : A → Build (α × σ) B} (h : Build.Follows stored Eq look look')
    (hr : ∀ a, Build.Follows stored Eq (read a) (read' a)) :
    Follows stored Eq (found look read) (found look' read') := by
  refine h.bind fun a b hab => .pure ?_
  subst hab
  exact hr a

theorem Follows.map {work : Staged α A} {work' : Staged (α × σ) A} (f : A → B)
    (h : Follows stored Eq work work') : Follows stored Eq (work.map f) (work'.map f) :=
  Build.Follows.bind h fun _ _ hsecond => .pure (hsecond.map fun _ _ => congrArg f)

theorem Follows.both {one : Staged α A} {one' : Staged (α × σ) A} {other : Staged α B}
    {other' : Staged (α × σ) B} (f : A → B → C) (h : Follows stored Eq one one')
    (h' : Follows stored Eq other other') :
    Follows stored Eq (both f one other) (both f one' other') := by
  -- First rounds one after the other, and then second rounds one after the other.
  refine Build.Follows.bind h fun _ _ hsecond => Build.Follows.bind h' fun _ _ hthird => .pure ?_
  refine hsecond.bind fun a a' ha => hthird.bind fun b b' hb => .pure ?_
  rw [ha, hb]

theorem Follows.run {work : Staged α A} {work' : Staged (α × σ) A}
    (h : Follows stored Eq work work') : Build.Follows stored Eq work.run work'.run :=
  Build.Follows.bind h fun _ _ hsecond => hsecond

theorem Follows.later {work : Staged α A} {work' : Staged (α × σ) A}
    (h : Follows stored Eq work work') : Follows stored Eq work.later work'.later :=
  .pure h.run

theorem Follows.after {provide : Build α Unit} {provide' : Build (α × σ) Unit}
    {work : Staged α A} {work' : Staged (α × σ) A}
    (hprovide : Build.Follows stored Eq provide provide') (h : Follows stored Eq work work') :
    Follows stored Eq (after provide work) (after provide' work') :=
  hprovide.bind fun _ _ _ => h

/-- The second round in an owner that was left, which is the same in both sessions
    and is current again for the work. -/
theorem Follows.resumed {next : Build α A} {next' : Build (α × σ) A} {inside : Session α}
    {inside' : Session (α × σ)} (hinside : Furnished stored inside inside')
    (h : Build.Follows stored Eq next next') :
    Build.Follows stored Eq
      (do
        modify fun session => session.reenter inside.owner
        let a ← next
        Build.command .leave
        return a)
      (do
        modify fun session => session.reenter inside'.owner
        let a ← next'
        Build.command .leave
        return a) := by
  have hreenter : Build.Follows stored Eq
      (modify fun session : Session α => session.reenter inside.owner)
      (modify fun session => session.reenter inside'.owner) :=
    .modify fun _ _ hs => hs.reenter hinside.owner
  refine hreenter.bind ?_
  intro _ _ _
  refine h.bind ?_
  intro a b hab
  exact Build.Follows.leave.bind fun _ _ _ => .pure hab

/-- An owner around both works is entered, left and entered again alike. -/
theorem Follows.owned {work : Staged α A} {work' : Staged (α × σ) A}
    (h : Follows stored Eq work work') : Follows stored Eq (owned work) (owned work') := by
  have henter : Build.Follows stored Eq (Build.command .enter : Build α Unit)
      (Build.command .enter) :=
    .modify fun _ _ hs => hs.enter
  refine henter.bind ?_
  intro _ _ _
  refine Build.Follows.bind h ?_
  intro next next' hnext
  -- Both sessions keep the owner they are in, for the second round.
  refine Build.Follows.get.bind ?_
  intro inside inside' hinside
  refine Build.Follows.leave.bind fun _ _ _ => .pure ?_
  exact Follows.resumed hinside hnext

end Staged

/-! ## Trees -/

namespace Component

/-- Where a component stands: its number among the children of the one around
    it, behind the numbers of those further out. -/
abbrev Position := List Nat

mutual

/-- A tree whose providers have these storages, and whose designs keep to the
    first part of the world. -/
def furnished (storages : Position → Storage σ) : Component α → Component (α × σ)
  | text content => .text content
  | verbatim content => .verbatim content
  | element tag attributes children => .element tag attributes (furnishedFrom storages 0 children)
  | void tag attributes => .void tag attributes
  | scope children => .scope (furnishedFrom storages 0 children)
  | design options source children =>
      .design options source.onFirst (furnishedFrom storages 0 children)
  | sidebarProvider options startsOpen _ children =>
      .sidebarProvider options startsOpen (storages []).onSecond (furnishedFrom storages 0 children)
  | sidebarContext options _ actions children =>
      .sidebarContext options (storages []).onSecond actions (furnishedFrom storages 0 children)
  | router request children => .router request (furnishedFrom storages 0 children)
  | panel children => .panel (furnishedFrom storages 0 children)
  | trigger => .trigger
  | rail => .rail
  | menuItem label href icon => .menuItem label href icon
  | switcher => .switcher
  | designNote => .designNote

/-- Children from some number on. -/
def furnishedFrom (storages : Position → Storage σ) (number : Nat) :
    List (Component α) → List (Component (α × σ))
  | [] => []
  | component :: components =>
      furnished (fun position => storages (number :: position)) component ::
        furnishedFrom storages (number + 1) components

end

mutual

/-- Nothing is done to a sidebar while the tree is worked on, as it is with
    every component that a page is made of. -/
def isServed : Component σ → Bool
  | element _ _ children => areServed children
  | scope children => areServed children
  | design _ _ children => areServed children
  | sidebarProvider _ _ _ children => areServed children
  | sidebarContext _ _ _ _ => false
  | router _ children => areServed children
  | panel children => areServed children
  | text _ => true
  | verbatim _ => true
  | void _ _ => true
  | trigger => true
  | rail => true
  | menuItem _ _ _ => true
  | switcher => true
  | designNote => true

def areServed : List (Component σ) → Bool
  | [] => true
  | component :: components => isServed component && areServed components

end

set_option maxRecDepth 4000 in
/-- The document of every request is made of served components. -/
theorem areServed_document (scripts request : String) :
    areServed (document scripts request : List (Component σ)) = true := by
  have hrequested : areServed (requested request : List (Component σ)) = true := by
    unfold requested
    -- An address that is no path is shown as such, and every route has a view.
    cases pathname request with
    | error fault => rfl
    | ok path =>
        simp only [routed]
        split
        · rfl
        · split <;> rfl
  simp only [document, app, inset, boxed, appMenu, documentHead, areServed, isServed, hrequested]
  rfl

variable {stored : σ}

theorem follows_sidebar : Staged.Follows stored Eq (Staged.sidebar : Staged α Sidebar) .sidebar :=
  .found .needOwned .readSidebar

theorem follows_design :
    Staged.Follows stored Eq (Staged.design : Staged α (Preferences × Scheme)) .design :=
  .found .needOwned .readDesign

theorem follows_path : Staged.Follows stored Eq (Staged.path : Staged α String) .path :=
  .found .needOwned fun _ => .pure rfl

mutual

/-- A tree is worked on alike whatever storages its providers have. -/
theorem follows_build (stored : σ) :
    ∀ (component : Component α) (storages : Position → Storage σ), component.isServed = true →
      Staged.Follows stored Eq (build component) (build (component.furnished storages))
  | text content, _, _ => by
      rw [furnished, build, build]
      exact .done _
  | verbatim content, _, _ => by
      rw [furnished, build, build]
      exact .done _
  | element tag attributes children, storages, served => by
      rw [furnished, build, build]
      exact (follows_buildAll stored children storages 0 served).map _
  | void tag attributes, _, _ => by
      rw [furnished, build, build]
      exact .done _
  | scope children, storages, served => by
      rw [furnished, build, build]
      exact (follows_buildAll stored children storages 0 served).owned
  | design options source children, storages, served => by
      rw [furnished, build, build]
      exact .after (.modify fun _ _ hs => hs.provideDesign options source)
        (follows_buildAll stored children storages 0 served)
  | sidebarProvider options startsOpen storage children, storages, served => by
      rw [furnished, build, build]
      exact .after (.modify fun _ _ hs => hs.provideSidebar _ storage _)
        (.both _ follows_sidebar (follows_buildAll stored children storages 0 served))
  | sidebarContext _ _ _ _, _, served => by
      simp only [isServed, Bool.false_eq_true] at served
  | router request children, storages, served => by
      rw [furnished, build, build]
      exact .after (.provideRequest request) (follows_buildAll stored children storages 0 served)
  | panel children, storages, served => by
      rw [furnished, build, build]
      exact .both _ follows_sidebar (follows_buildAll stored children storages 0 served).later
  | trigger, _, _ => by
      rw [furnished, build, build]
      exact follows_sidebar.map _
  | rail, _, _ => by
      rw [furnished, build, build]
      exact follows_sidebar.map _
  | menuItem label href icon, _, _ => by
      rw [furnished, build, build]
      exact .both _ follows_sidebar follows_path
  | switcher, _, _ => by
      rw [furnished, build, build]
      exact follows_design.map _
  | designNote, _, _ => by
      rw [furnished, build, build]
      exact follows_design.map _

theorem follows_buildAll (stored : σ) :
    ∀ (components : List (Component α)) (storages : Position → Storage σ) (number : Nat),
      areServed components = true →
      Staged.Follows stored Eq (buildAll components)
        (buildAll (furnishedFrom storages number components))
  | [], _, _, _ => by
      rw [furnishedFrom, buildAll, buildAll]
      exact .done []
  | component :: components, storages, number, served => by
      rw [areServed, Bool.and_eq_true] at served
      rw [furnishedFrom, buildAll, buildAll]
      exact .both _ (follows_build stored component _ served.1)
        (follows_buildAll stored components storages (number + 1) served.2)

end

/-- A page with any storages is the page of the bare tree, and what is stored
    is left alone. -/
theorem render_furnishedFrom (components : List (Component α))
    (served : areServed components = true) (storages : Position → Storage σ) (host : α)
    (stored : σ) :
    render (furnishedFrom storages 0 components) (host, stored) =
      (render components host).map fun page => (page.1, page.2, stored) := by
  -- Both rounds start from sessions without anything in them.
  have hfollows := (follows_buildAll stored components storages 0 served).run { world := host }
    { world := (host, stored) } ⟨rfl, rfl, rfl, rfl, rfl⟩
  simp only [render, page]
  generalize (buildAll components).run { world := host } = outcome at hfollows ⊢
  generalize (buildAll (furnishedFrom storages 0 components)).run _ = outcome' at hfollows ⊢
  cases hfollows with
  | failed misplaced => rfl
  | made hnodes hs =>
      subst hnodes
      simp only [hs.world, Except.map]

/-- What a server writes for a tree does not depend on the storages of its
    providers, nor on what is stored, and neither does whether and why it
    writes nothing. No storage is called: a record of all calls stays as it
    was. -/
theorem render_ignores_storages {τ : Type} (components : List (Component α))
    (served : areServed components = true) (host : α) (storages : Position → Storage σ)
    (stored : σ) (others : Position → Storage τ) (stored' : τ) :
    (render (furnishedFrom storages 0 components) (host, stored)).map Prod.fst =
        (render (furnishedFrom others 0 components) (host, stored')).map Prod.fst ∧
      ∀ calls : List Call,
        render (furnishedFrom (fun position => (storages position).recorded) 0 components)
            (host, stored, calls) =
          (render (furnishedFrom storages 0 components) (host, stored)).map fun page =>
            (page.1, page.2.1, stored, calls) := by
  -- The bare tree decides, once for all storages and with a record of calls as with none.
  simp only [render_furnishedFrom components served]
  cases render components host with
  | error misplaced => exact ⟨rfl, fun _ => rfl⟩
  | ok page => exact ⟨rfl, fun _ => rfl⟩

/-- A sidebar that starts collapsed inside one that starts open. Neither looks
    at the memory that says otherwise, nor at a cookie that makes no sense. -/
theorem render_ignores_storages_nested :
    let tree : List (Component Unit) :=
      [.sidebarProvider {} none .disabled
        [.sidebarProvider {} (some false) .disabled [.text "hi"]]]
    let text := "<div data-state=\"expanded\" data-mobile=\"false\" class=\"sidebar-wrapper\">" ++
      "<div data-state=\"collapsed\" data-mobile=\"false\" class=\"sidebar-wrapper\">hi</div></div>"
    let entries : Ledger String String := [("sidebar_state", "false")]
    let document : CookieDocument := { header := "sidebar_state=yes" }
    areServed tree = true ∧
      render (furnishedFrom (fun _ => Storage.memory) 0 tree) ((), entries) =
        .ok (text, (), entries) ∧
      (render (furnishedFrom (fun _ => Storage.cookies) 0 tree) ((), document)).map Prod.fst =
        .ok text ∧
      render (furnishedFrom (fun _ => Storage.memory.recorded) 0 tree) ((), entries, []) =
        .ok (text, (), entries, []) := by
  intro tree text entries document
  have hserved : areServed tree = true := rfl
  have htext : render (furnishedFrom (fun _ => Storage.memory) 0 tree) ((), entries) =
      .ok (text, (), entries) := rfl
  rcases render_ignores_storages tree hserved () (fun _ => Storage.memory) entries
    (fun _ => Storage.cookies) document with ⟨hsame, hcalls⟩
  exact ⟨hserved, htext, hsame.symm.trans (congrArg (Except.map Prod.fst) htext),
    (hcalls []).trans (by rw [htext]; rfl)⟩

/-- A synchronisation on the way would have been recorded. -/
example : (render [.sidebarContext {} Storage.memory.recorded [.synchronise none] []]
    ([], [])).map (·.2.2) = .ok [.load "sidebar_state" none] := by
  rfl

end Component

end DashKit
