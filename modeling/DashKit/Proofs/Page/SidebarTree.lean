import DashKit.Page.Button

/-!
# Trees of Sidebar Components

The trees that can be made of the components of a sidebar, the markup they have,
and what can be read off markup.

Providers stand inside each other and side by side, so it is a property of the
tree which provider is the nearest around a component. Which provider a component
finds is another one. It is the last that was set up in the same owner, or in the
nearest owner above it that has one, and whether that provider stands around the
component has no part in it. So the order of setting up has to be told, and it
takes two rounds. In the first every tree is set up in document order, except for
the children of a panel. Those are set up when the panel is written, which is in
the second round, and by then everything else has been.

`latest` and `latestWritten` are the providers that the two rounds leave behind
in an owner. With their help `parts` lists the components in document order, each
with the options of both providers, the one around it and the one it finds.
`drawn` is the markup in which everything follows the latter. They are recursions
on the tree that pass options along and know of no session, which is what makes
them something to compare a page with.

What a page shows is read off its nodes by `signs`. Elements are recognised by
their class, because that is what a style sheet goes by. A sign also holds what
the nearest wrapper around its element shows, so that an element and its wrapper
are compared in the markup itself and not through the options behind them.

A component that is outside every provider may find none, and there is no markup
then. `drawn` takes the default options there, and what is said about it is said
of trees whose parts are all `Part.isPlaced`.

## Main definitions

* `SidebarTree`: The trees, with `SidebarTree.component` as components.
* `SidebarTree.latest`, `SidebarTree.latestWritten`: The last provider that is set
  up in a round.
* `SidebarTree.parts`: The components that show something of a sidebar, and
  `SidebarTree.pageParts`, those of a page.
* `SidebarTree.drawn`: The markup of a tree.
* `SidebarTree.isolated`: A tree with an owner around each provider.
* `Html.signs`: What markup shows of sidebars.
* `SidebarTree.Part.signs`: What a part shows.
* `SidebarTree.Part.agrees`: It shows the same as if it found the provider around
  it.

## Theorems

* `isSome_found`: A component inside a provider finds one.
* `signsAll_drawnAll`: Drawn trees show what their parts show.
* `signs_eq_enclosed_iff`: Trees show what is around their parts exactly if every
  part agrees.
* `pageParts_isolatedAll`: With an owner around each provider, parts find the
  provider around them.
* `caption_infix_triggerTitle`: A title names the shortcut exactly if it is
  enabled.
-/

namespace DashKit

/-- A tree of the components of a sidebar. -/
inductive SidebarTree (σ : Type)
  | provider (options : SidebarOptions) (startsOpen : Option Bool) (storage : Storage σ)
      (children : List (SidebarTree σ))
  | panel (children : List (SidebarTree σ))
  | menu (children : List (SidebarTree σ))
  | inset (children : List (SidebarTree σ))
  /-- Trees in an owner of their own. -/
  | scope (children : List (SidebarTree σ))
  | item (label href icon : String)
  | trigger

/-! ## Reading Markup -/

/-- The value of an attribute. -/
def Attributes.value? (attributes : Attributes) (name : String) : Option String :=
  (attributes.named.lookup name).join

namespace Html

/-- An element of a sidebar, with what it shows. -/
inductive Mark
  | wrapper (state : Option String)
  | panel (state : Option String)
  | drawer
  | item (title : Option String)
  | label (isHidden : Bool)
  | trigger (title : Option String)
  deriving DecidableEq, Repr

/-- A mark, with what the nearest wrapper around it shows. -/
structure Sign where
  wrapper : Option String
  mark : Mark
  deriving DecidableEq, Repr

/-- The mark of an element with these attributes. -/
def mark? (attributes : Attributes) : Option Mark :=
  match attributes.className with
  | some "sidebar-wrapper" => some (.wrapper (attributes.value? "data-state"))
  | some "sidebar" => some (.panel (attributes.value? "data-state"))
  | some "sidebar-drawer" => some .drawer
  | some "sidebar-menu__button" => some (.item (attributes.value? "title"))
  | some "sidebar-menu__label" => some (.label false)
  | some "sidebar-menu__label sidebar-menu__label--hidden" => some (.label true)
  | some "sidebar-trigger" => some (.trigger (attributes.value? "title"))
  | _ => none

/-- What the nearest wrapper shows inside an element. -/
def wrapperInside (attributes : Attributes) (around : Option String) : Option String :=
  match mark? attributes with
  | some (.wrapper state) => state
  | _ => around

mutual

/-- What a node shows of sidebars, in document order. -/
def signs (around : Option String) : Html → List Sign
  | text _ => []
  | verbatim _ => []
  | element _ attributes children =>
      (mark? attributes).toList.map (Sign.mk around)
        ++ signsAll (wrapperInside attributes around) children
  | void _ attributes => (mark? attributes).toList.map (Sign.mk around)

/-- What nodes show of sidebars, in document order. -/
def signsAll (around : Option String) : List Html → List Sign
  | [] => []
  | node :: nodes => signs around node ++ signsAll around nodes

end

end Html

namespace SidebarTree

variable {σ : Type}

/-! ## Rounds -/

mutual

/-- The last provider that the first round of a tree sets up in its owner. -/
def latest : SidebarTree σ → Option SidebarOptions
  | provider options startsOpen _ children =>
      (latestAll children).or (some (Component.effectiveOptions options startsOpen))
  | panel _ => none
  | menu children => latestAll children
  | inset children => latestAll children
  | scope _ => none
  | item _ _ _ => none
  | trigger => none

/-- The last provider of several trees. -/
def latestAll : List (SidebarTree σ) → Option SidebarOptions
  | [] => none
  | tree :: trees => (latestAll trees).or (latest tree)

end

mutual

/-- The last provider that the second round of a tree sets up in its owner. Both
    rounds of the children of a panel belong to it. -/
def latestWritten : SidebarTree σ → Option SidebarOptions
  | provider _ _ _ children => latestWrittenAll children
  | panel children => (latestWrittenAll children).or (latestAll children)
  | menu children => latestWrittenAll children
  | inset children => latestWrittenAll children
  | scope _ => none
  | item _ _ _ => none
  | trigger => none

/-- The last provider of several trees. -/
def latestWrittenAll : List (SidebarTree σ) → Option SidebarOptions
  | [] => none
  | tree :: trees => (latestWrittenAll trees).or (latestWritten tree)

end

/-! ## Parts -/

/-- What a component is that shows something of a sidebar. -/
inductive Role
  /-- A provider, with its own options. -/
  | provider (options : SidebarOptions)
  | panel
  | item (label : String)
  | trigger
  deriving DecidableEq, Repr

/-- A component, with the options of the nearest provider around it and of the
    provider that it finds. -/
structure Part where
  role : Role
  around : Option SidebarOptions
  found : Option SidebarOptions
  deriving DecidableEq, Repr

mutual

/-- The components that show something of a sidebar, in document order. A
    provider is around them, and one is found in front of the first round of the
    tree and one in front of its second round. -/
def parts (around found later : Option SidebarOptions) : SidebarTree σ → List Part
  | provider options startsOpen _ children =>
      let own := Component.effectiveOptions options startsOpen
      ⟨.provider own, around, found⟩ :: partsAll (some own) (some own) later children
  -- When the children are set up, what is found in front of the second round is.
  | panel children =>
      ⟨.panel, around, found⟩ :: partsAll around later ((latestAll children).or later) children
  | menu children => partsAll around found later children
  | inset children => partsAll around found later children
  | scope children => partsAll around found ((latestAll children).or later) children
  | item label _ _ => [⟨.item label, around, found⟩]
  | trigger => [⟨.trigger, around, found⟩]

/-- The parts of several trees. -/
def partsAll (around found later : Option SidebarOptions) : List (SidebarTree σ) → List Part
  | [] => []
  | tree :: trees =>
      parts around found later tree
        ++ partsAll around ((latest tree).or found) ((latestWritten tree).or later) trees

end

/-- The parts of a page of trees, where nothing is found outside of them. -/
def pageParts (trees : List (SidebarTree σ)) : List Part :=
  partsAll none none (latestAll trees) trees

/-- Where a sidebar with these options starts. -/
def stateWord (options : SidebarOptions) : String :=
  if options.startsOpen then "expanded" else "collapsed"

/-- The word tells where the sidebar starts. -/
theorem stateWord_inj {options others : SidebarOptions} :
    stateWord options = stateWord others ↔ options.startsOpen = others.startsOpen := by
  unfold stateWord
  cases options.startsOpen <;> cases others.startsOpen <;> decide

/-- The marks of a component that finds a provider: a wrapper and a panel show
    where the sidebar starts, a collapsed sidebar moves labels into titles. -/
def Role.marks : Role → Option SidebarOptions → List Html.Mark
  | provider options, _ => [.wrapper (some (stateWord options))]
  | panel, some options => [.panel (some (stateWord options))]
  | item label, some options =>
      [.item (if options.startsOpen then none else some label), .label (!options.startsOpen)]
  | trigger, some options => [.trigger (some (triggerTitle options))]
  | _, none => []

namespace Part

/-- A part that needs no provider around it or has one. -/
def isPlaced : Part → Bool
  | ⟨.provider _, _, _⟩ => true
  | ⟨_, around, _⟩ => around.isSome

/-- A part that needs to find no provider or finds one. -/
def isFound : Part → Bool
  | ⟨.provider _, _, _⟩ => true
  | ⟨_, _, found⟩ => found.isSome

/-- What a part shows. -/
def signs (part : Part) : List Html.Sign :=
  (part.role.marks part.found).map (Html.Sign.mk (part.around.map stateWord))

/-- The part, if it found the provider around it. -/
def enclosed (part : Part) : Part :=
  { part with found := part.around }

/-- A part stands where it stands, whatever it finds. -/
theorem isPlaced_enclosed (part : Part) : part.enclosed.isPlaced = part.isPlaced := by
  rcases part with ⟨_ | _ | _ | _, _, _⟩ <;> rfl

/-- The provider that is found makes the part show what the one around it would:
    a trigger has the same title, and all else starts alike. -/
def agrees (part : Part) : Bool :=
  match part.role with
  | .provider _ => true
  | .trigger => part.found.map triggerTitle == part.around.map triggerTitle
  | _ => part.found.map SidebarOptions.startsOpen == part.around.map SidebarOptions.startsOpen

/-- No part is a drawer. -/
theorem ne_drawer_of_mem_signs {part : Part} {sign : Html.Sign} (h : sign ∈ part.signs) :
    sign.mark ≠ .drawer := by
  rcases List.mem_map.mp h with ⟨mark, hmark, rfl⟩
  -- The marks are listed for every role, with and without a provider that is found.
  rcases part with ⟨_ | _ | _ | _, _, _ | options⟩ <;>
    simp only [Role.marks, List.mem_cons, List.not_mem_nil, or_false] at hmark <;>
    rcases hmark with rfl | rfl <;> simp only [ne_eq, reduceCtorEq, not_false_eq_true]

/-- A panel that finds the provider around it shows the same as its wrapper. -/
theorem eq_wrapper_of_mem_enclosed {part : Part} {sign : Html.Sign}
    (h : sign ∈ part.enclosed.signs) {state : Option String} (hpanel : sign.mark = .panel state) :
    state = sign.wrapper := by
  rcases List.mem_map.mp h with ⟨mark, hmark, rfl⟩
  rcases part with ⟨_ | _ | _ | _, _ | options, _⟩ <;>
    simp only [enclosed, Role.marks, List.mem_cons, List.not_mem_nil, or_false] at hmark <;>
    rcases hmark with rfl | rfl <;> simp only [reduceCtorEq, Html.Mark.panel.injEq] at hpanel
  exact hpanel.symm

end Part

mutual

/-- A component inside a provider finds one, if that is so in front of the first
    round, and in front of the second as well where the first sets up another. -/
theorem isSome_found {around found later : Option SidebarOptions}
    (hfound : around.isSome → found.isSome) :
    ∀ tree : SidebarTree σ, (around.isSome ∨ tree.latest.isSome → later.isSome) →
      ∀ part ∈ tree.parts around found later, part.around.isSome → part.found.isSome
  | provider options startsOpen storage children, hlater => by
      -- What is behind is found in the second round, and that is at least this provider.
      have hlatest : (provider options startsOpen storage children).latest.isSome := by
        rw [latest, Option.or_some, Option.isSome_some]
      have hown : later.isSome := hlater (.inr hlatest)
      intro part hpart
      rcases List.mem_cons.mp hpart with rfl | hpart
      · exact hfound
      · exact isSome_foundAll (fun _ => rfl) children (fun _ => hown) part hpart
  | panel children, hlater => by
      intro part hpart
      rcases List.mem_cons.mp hpart with rfl | hpart
      · exact hfound
      -- The children are set up in the second round, so they find what is found there.
      · refine isSome_foundAll (fun h => hlater (.inl h)) children ?_ part hpart
        intro h
        rw [Option.isSome_or, Bool.or_eq_true]
        exact h.symm.imp_right fun h => hlater (.inl h)
  | menu children, hlater => isSome_foundAll hfound children hlater
  | inset children, hlater => isSome_foundAll hfound children hlater
  | scope children, hlater => by
      refine isSome_foundAll hfound children ?_
      intro h
      rw [Option.isSome_or, Bool.or_eq_true]
      exact h.symm.imp_right fun h => hlater (.inl h)
  | item _ _ _, _ => by
      intro part hpart
      rw [List.mem_singleton.mp hpart]
      exact hfound
  | trigger, _ => by
      intro part hpart
      rw [List.mem_singleton.mp hpart]
      exact hfound

theorem isSome_foundAll {around found later : Option SidebarOptions}
    (hfound : around.isSome → found.isSome) :
    ∀ trees : List (SidebarTree σ), (around.isSome ∨ (latestAll trees).isSome → later.isSome) →
      ∀ part ∈ partsAll around found later trees, part.around.isSome → part.found.isSome
  | [], _ => fun _ hpart => absurd hpart List.not_mem_nil
  | tree :: trees, hlater => by
      simp only [latestAll, Option.isSome_or, Bool.or_eq_true] at hlater
      intro part hpart
      rcases List.mem_append.mp hpart with hpart | hpart
      · exact isSome_found hfound tree (fun h => hlater (h.imp_right .inr)) part hpart
      · refine isSome_foundAll ?_ trees ?_ part hpart
        · intro h
          rw [Option.isSome_or, Bool.or_eq_true]
          exact .inr (hfound h)
        · intro h
          rw [Option.isSome_or, Bool.or_eq_true]
          exact .inr (hlater (h.imp_right .inl))

end

/-- Every placed part of a page that needs a provider finds one. -/
theorem isFound_of_isPlaced {trees : List (SidebarTree σ)} {part : Part}
    (hpart : part ∈ pageParts trees) (hplaced : part.isPlaced) : part.isFound := by
  -- Nothing is around a page, so nothing needs to be found in front of it.
  have hnone : (none : Option SidebarOptions).isSome ≠ true := Bool.false_ne_true
  have hfound := isSome_foundAll (fun h => absurd h hnone) trees
    (fun h => h.resolve_left hnone) part hpart
  rcases part with ⟨_ | _ | _ | _, around, found⟩
  · rfl
  · exact hfound hplaced
  · exact hfound hplaced
  · exact hfound hplaced

/-! ## Components and Markup -/

mutual

/-- A tree as a component. -/
def component : SidebarTree σ → Component σ
  | provider options startsOpen storage children =>
      .sidebarProvider options startsOpen storage (components children)
  | panel children => .panel (components children)
  | menu children => DashKit.menu (components children)
  | inset children => DashKit.inset (components children)
  | scope children => .scope (components children)
  | item label href icon => .menuItem label href icon
  | trigger => .trigger

/-- Trees as components. -/
def components : List (SidebarTree σ) → List (Component σ)
  | [] => []
  | tree :: trees => component tree :: components trees

end

mutual

/-- The markup of a tree on a page with a path. One provider is found in front of
    the first round, and one in front of the second. -/
def drawn (path : String) (found later : Option SidebarOptions) : SidebarTree σ → List Html
  | provider options startsOpen _ children =>
      let own := Component.effectiveOptions options startsOpen
      [wrapperHtml (.fresh own) (drawnAll path (some own) later children)]
  | panel children =>
      [panelHtml (.fresh (found.getD {}))
        (drawnAll path later ((latestAll children).or later) children)]
  | menu children => [.element "ul" (classed "sidebar-menu") (drawnAll path found later children)]
  | inset children =>
      [.element "main" (classed "sidebar-inset") (drawnAll path found later children)]
  | scope children => drawnAll path found ((latestAll children).or later) children
  | item label href icon => [menuItemHtml (.fresh (found.getD {})) path label href icon]
  | trigger => [triggerHtml (.fresh (found.getD {}))]

/-- The markup of several trees. -/
def drawnAll (path : String) (found later : Option SidebarOptions) :
    List (SidebarTree σ) → List Html
  | [] => []
  | tree :: trees =>
      drawn path found later tree
        ++ drawnAll path ((latest tree).or found) ((latestWritten tree).or later) trees

end

/-! ## What Drawn Trees Show -/

open Html

section Drawing

variable (around : Option String) (options : SidebarOptions) (nodes : List Html)

theorem word_appearance_fresh :
    (Sidebar.fresh options).appearance.word = stateWord options := by
  unfold stateWord
  cases h : options.startsOpen <;>
    simp [Sidebar.appearance, Sidebar.snapshot, Sidebar.fresh, Snapshot.appearance,
      Appearance.ofOpen, Appearance.word, h]

/-- An element without a mark shows what its children show. -/
theorem signs_element_unmarked {tag : String} {attributes : Attributes}
    (h : mark? attributes = none) :
    (Html.element tag attributes nodes).signs around = signsAll around nodes := by
  simp only [Html.signs, wrapperInside, h, Option.toList_none, List.map_nil, List.nil_append]

theorem signs_wrapperHtml :
    (wrapperHtml (.fresh options) nodes).signs around =
      ⟨around, .wrapper (some (stateWord options))⟩
        :: signsAll (some (stateWord options)) nodes := by
  rw [← word_appearance_fresh]
  rfl

theorem signs_panelHtml :
    (panelHtml (.fresh options) nodes).signs around =
      ⟨around, .panel (some (stateWord options))⟩ :: signsAll around nodes := by
  -- The inner box of a panel has no mark of its own.
  have hinner : (Html.element "div" (classed "sidebar__inner") nodes).signs around =
      signsAll around nodes := signs_element_unmarked around nodes rfl
  rw [← word_appearance_fresh, panelHtml, Html.signs, Html.signsAll, Html.signsAll]
  rw [show wrapperInside _ around = around from rfl, hinner, List.append_nil]
  rfl

theorem signs_menuItemHtml (path label href icon : String) :
    (menuItemHtml (.fresh options) path label href icon).signs around =
      [⟨around, .item (if options.startsOpen then none else some label)⟩,
        ⟨around, .label (!options.startsOpen)⟩] := by
  cases h : options.startsOpen
  · have hidden : labelsHidden (.fresh options) = true := by
      simp only [labelsHidden, Sidebar.fresh, h, Bool.not_false, Bool.and_true]
    rw [menuItemHtml, hidden]
    rfl
  · have shown : labelsHidden (.fresh options) = false := by
      simp only [labelsHidden, Sidebar.fresh, h, Bool.not_true, Bool.and_false]
    rw [menuItemHtml, shown]
    rfl

theorem signs_triggerHtml :
    (triggerHtml (.fresh options)).signs around =
      [⟨around, .trigger (some (triggerTitle options))⟩] := rfl

end Drawing

theorem signsAll_append (around : Option String) (nodes others : List Html) :
    signsAll around (nodes ++ others) = signsAll around nodes ++ signsAll around others := by
  induction nodes with
  | nil => rfl
  | cons node nodes ih => rw [List.cons_append, signsAll, signsAll, ih, List.append_assoc]

theorem signsAll_singleton (around : Option String) (node : Html) :
    signsAll around [node] = node.signs around := by
  rw [signsAll, signsAll, List.append_nil]

mutual

/-- A drawn tree shows what its parts show, if each of them finds a provider. -/
theorem signsAll_drawn (path : String) (around found later : Option SidebarOptions) :
    ∀ tree : SidebarTree σ, (∀ part ∈ tree.parts around found later, part.isFound) →
      signsAll (around.map stateWord) (tree.drawn path found later) =
        (tree.parts around found later).flatMap Part.signs
  | provider options startsOpen _ children, hfound => by
      have hinside := signsAll_drawnAll path
        (some (Component.effectiveOptions options startsOpen))
        (some (Component.effectiveOptions options startsOpen)) later children
        fun part h => hfound part (List.mem_cons_of_mem _ h)
      rw [drawn, signsAll_singleton, signs_wrapperHtml, parts, List.flatMap_cons]
      exact congrArg (_ :: ·) hinside
  | panel children, hfound => by
      -- A panel that finds no provider would be drawn with the default one instead.
      have hpanel : found.isSome := hfound _ List.mem_cons_self
      rcases Option.isSome_iff_exists.mp hpanel with ⟨options, rfl⟩
      have hinside := signsAll_drawnAll path around later ((latestAll children).or later) children
        fun part h => hfound part (List.mem_cons_of_mem _ h)
      rw [drawn, signsAll_singleton, Option.getD_some, signs_panelHtml, parts, List.flatMap_cons]
      exact congrArg (_ :: ·) hinside
  | menu children, hfound => by
      rw [drawn, signsAll_singleton, signs_element_unmarked _ _ rfl]
      exact signsAll_drawnAll path around found later children hfound
  | inset children, hfound => by
      rw [drawn, signsAll_singleton, signs_element_unmarked _ _ rfl]
      exact signsAll_drawnAll path around found later children hfound
  | scope children, hfound => by
      rw [drawn]
      exact signsAll_drawnAll path around found ((latestAll children).or later) children hfound
  | item label href icon, hfound => by
      have hitem : found.isSome := hfound _ (List.mem_singleton_self _)
      rcases Option.isSome_iff_exists.mp hitem with ⟨options, rfl⟩
      rw [drawn, signsAll_singleton, Option.getD_some, signs_menuItemHtml]
      rfl
  | trigger, hfound => by
      have htrigger : found.isSome := hfound _ (List.mem_singleton_self _)
      rcases Option.isSome_iff_exists.mp htrigger with ⟨options, rfl⟩
      rw [drawn, signsAll_singleton, Option.getD_some, signs_triggerHtml]
      rfl

/-- Drawn trees show what their parts show, in document order. -/
theorem signsAll_drawnAll (path : String) (around found later : Option SidebarOptions) :
    ∀ trees : List (SidebarTree σ), (∀ part ∈ partsAll around found later trees, part.isFound) →
      signsAll (around.map stateWord) (drawnAll path found later trees) =
        (partsAll around found later trees).flatMap Part.signs
  | [], _ => rfl
  | tree :: trees, hfound => by
      have hfirst := signsAll_drawn path around found later tree
        fun part h => hfound part (List.mem_append_left _ h)
      have hrest := signsAll_drawnAll path around ((latest tree).or found)
        ((latestWritten tree).or later) trees fun part h => hfound part (List.mem_append_right _ h)
      rw [drawnAll, signsAll_append, hfirst, hrest, partsAll, List.flatMap_append]

end

/-! ## Agreement -/

/-- Two lists that are put together from pieces of the same lengths are equal
    exactly if the pieces are. -/
theorem flatMap_eq_flatMap_iff {α β : Type} {f g : α → List β} {as : List α}
    (h : ∀ a ∈ as, (f a).length = (g a).length) :
    as.flatMap f = as.flatMap g ↔ ∀ a ∈ as, f a = g a := by
  induction as with
  | nil => exact iff_of_true rfl fun _ ha => absurd ha List.not_mem_nil
  | cons a as ih =>
      have hrest := ih fun b hb => h b (List.mem_cons_of_mem a hb)
      rw [List.flatMap_cons, List.flatMap_cons, List.forall_mem_cons, ← hrest]
      constructor
      · exact fun heq => List.append_inj heq (h a List.mem_cons_self)
      · rintro ⟨hfirst, hothers⟩
        rw [hfirst, hothers]

namespace Part

theorem length_signs {part : Part} (hplaced : part.isPlaced) (hfound : part.isFound) :
    part.signs.length = part.enclosed.signs.length := by
  rcases part with ⟨_ | _ | _ | _, _ | around, _ | found⟩ <;> simp_all [isPlaced, isFound] <;> rfl

/-- A part shows what it would show of the provider around it exactly if it
    agrees. -/
theorem signs_eq_enclosed_iff_agrees {part : Part} (hplaced : part.isPlaced)
    (hfound : part.isFound) : part.signs = part.enclosed.signs ↔ part.agrees = true := by
  rcases part with ⟨role, around, found⟩
  cases role with
  | provider options => exact iff_of_true rfl rfl
  | panel =>
      rcases Option.isSome_iff_exists.mp (show around.isSome from hplaced) with ⟨outer, rfl⟩
      rcases Option.isSome_iff_exists.mp (show found.isSome from hfound) with ⟨inner, rfl⟩
      -- Both show one mark in the same wrapper, so it is about the two words.
      simp only [signs, enclosed, Role.marks, agrees, List.map_cons, List.map_nil, List.cons.injEq,
        Html.Sign.mk.injEq, Html.Mark.panel.injEq, Option.some.injEq, stateWord_inj,
        Option.map_some, beq_iff_eq, true_and, and_true]
  | item label =>
      rcases Option.isSome_iff_exists.mp (show around.isSome from hplaced) with ⟨outer, rfl⟩
      rcases Option.isSome_iff_exists.mp (show found.isSome from hfound) with ⟨inner, rfl⟩
      simp only [signs, enclosed, Role.marks, agrees, List.map_cons, List.map_nil, List.cons.injEq,
        Html.Sign.mk.injEq, Html.Mark.item.injEq, Html.Mark.label.injEq, Bool.not_inj_iff,
        Option.map_some, Option.some.injEq, beq_iff_eq, true_and, and_true]
      -- The label alone tells where the sidebar starts.
      exact ⟨And.right, fun h => ⟨by rw [h], h⟩⟩
  | trigger =>
      rcases Option.isSome_iff_exists.mp (show around.isSome from hplaced) with ⟨outer, rfl⟩
      rcases Option.isSome_iff_exists.mp (show found.isSome from hfound) with ⟨inner, rfl⟩
      simp only [signs, enclosed, Role.marks, agrees, List.map_cons, List.map_nil, List.cons.injEq,
        Html.Sign.mk.injEq, Html.Mark.trigger.injEq, Option.map_some, Option.some.injEq,
        beq_iff_eq, true_and, and_true]

end Part

/-- Trees show what is around their parts exactly if every part agrees. -/
theorem signs_eq_enclosed_iff {parts : List Part} (hplaced : ∀ part ∈ parts, part.isPlaced)
    (hfound : ∀ part ∈ parts, part.isFound) :
    parts.flatMap Part.signs = parts.flatMap (fun part => part.enclosed.signs) ↔
      ∀ part ∈ parts, part.agrees = true := by
  rw [flatMap_eq_flatMap_iff fun part h => Part.length_signs (hplaced part h) (hfound part h)]
  exact forall₂_congr fun part h =>
    Part.signs_eq_enclosed_iff_agrees (hplaced part h) (hfound part h)

/-! ## Owners around Providers -/

mutual

/-- A tree with an owner around each provider. -/
def isolated : SidebarTree σ → SidebarTree σ
  | provider options startsOpen storage children =>
      .scope [.provider options startsOpen storage (isolatedAll children)]
  | panel children => .panel (isolatedAll children)
  | menu children => .menu (isolatedAll children)
  | inset children => .inset (isolatedAll children)
  | scope children => .scope (isolatedAll children)
  | item label href icon => .item label href icon
  | trigger => .trigger

/-- Trees with an owner around each provider. -/
def isolatedAll : List (SidebarTree σ) → List (SidebarTree σ)
  | [] => []
  | tree :: trees => isolated tree :: isolatedAll trees

end

mutual

/-- A provider in an owner of its own is found by nothing outside of it. -/
theorem latest_isolated : ∀ tree : SidebarTree σ, tree.isolated.latest = none
  | provider _ _ _ _ => rfl
  | panel _ => rfl
  | menu children => latest_isolatedAll children
  | inset children => latest_isolatedAll children
  | scope _ => rfl
  | item _ _ _ => rfl
  | trigger => rfl

theorem latest_isolatedAll : ∀ trees : List (SidebarTree σ), latestAll (isolatedAll trees) = none
  | [] => rfl
  | tree :: trees => by
      rw [isolatedAll, latestAll, latest_isolated tree, latest_isolatedAll trees, Option.none_or]

end

mutual

/-- Neither is one that the second round sets up. -/
theorem latestWritten_isolated : ∀ tree : SidebarTree σ, tree.isolated.latestWritten = none
  | provider _ _ _ _ => rfl
  | panel children => by
      rw [isolated, latestWritten, latestWritten_isolatedAll children, latest_isolatedAll children,
        Option.none_or]
  | menu children => latestWritten_isolatedAll children
  | inset children => latestWritten_isolatedAll children
  | scope _ => rfl
  | item _ _ _ => rfl
  | trigger => rfl

theorem latestWritten_isolatedAll :
    ∀ trees : List (SidebarTree σ), latestWrittenAll (isolatedAll trees) = none
  | [] => rfl
  | tree :: trees => by
      rw [isolatedAll, latestWrittenAll, latestWritten_isolated tree,
        latestWritten_isolatedAll trees, Option.none_or]

end

mutual

/-- With an owner around each provider, parts find the provider around them,
    whatever the parts of the plain tree find. -/
theorem parts_isolated (around found later : Option SidebarOptions) :
    ∀ tree : SidebarTree σ, tree.isolated.parts around around around =
      (tree.parts around found later).map Part.enclosed
  | provider options startsOpen storage children => by
      -- The provider is the last one that is set up in its owner.
      have hlatest : latestAll [.provider options startsOpen storage (isolatedAll children)] =
          some (Component.effectiveOptions options startsOpen) := by
        rw [latestAll, latestAll, latest, latest_isolatedAll, Option.none_or, Option.none_or]
      have hinside := partsAll_isolatedAll
        (some (Component.effectiveOptions options startsOpen))
        (some (Component.effectiveOptions options startsOpen)) later children
      rw [isolated, parts, parts, hlatest, Option.some_or, partsAll, partsAll, List.append_nil,
        parts, hinside]
      rfl
  | panel children => by
      have hinside := partsAll_isolatedAll around later ((latestAll children).or later) children
      rw [isolated, parts, latest_isolatedAll, Option.none_or, hinside]
      rfl
  | menu children => partsAll_isolatedAll around found later children
  | inset children => partsAll_isolatedAll around found later children
  | scope children => by
      have hinside := partsAll_isolatedAll around found ((latestAll children).or later) children
      rw [isolated, parts, latest_isolatedAll, Option.none_or, hinside, parts]
  | item _ _ _ => rfl
  | trigger => rfl

/-- With an owner around each provider, all parts find the provider around them. -/
theorem partsAll_isolatedAll (around found later : Option SidebarOptions) :
    ∀ trees : List (SidebarTree σ), partsAll around around around (isolatedAll trees) =
      (partsAll around found later trees).map Part.enclosed
  | [] => rfl
  | tree :: trees => by
      have hfirst := parts_isolated around found later tree
      have hrest := partsAll_isolatedAll around ((latest tree).or found)
        ((latestWritten tree).or later) trees
      rw [isolatedAll, partsAll, latest_isolated, latestWritten_isolated, Option.none_or, hfirst,
        hrest, partsAll, List.map_append]

end

/-- On a page with an owner around each provider, all parts find the provider
    around them. -/
theorem pageParts_isolatedAll (trees : List (SidebarTree σ)) :
    pageParts (isolatedAll trees) = (pageParts trees).map Part.enclosed := by
  rw [pageParts, latest_isolatedAll, partsAll_isolatedAll none none (latestAll trees), pageParts]

/-- The title of a trigger names the shortcut exactly if it is enabled. -/
theorem caption_infix_triggerTitle (options : SidebarOptions) :
    options.shortcut.caption.toList <:+: (triggerTitle options).toList ↔
      options.shortcutEnabled = true := by
  unfold triggerTitle
  cases options.shortcutEnabled
  · -- Every caption has a plus sign, and the plain title has none.
    have plus : '+' ∈ options.shortcut.caption.toList := by
      simp [Shortcut.caption]
    simp only [Bool.false_eq_true, if_false, iff_false]
    intro h
    exact absurd (h.subset plus) (by decide)
  · simp only [if_true, iff_true, String.toList_append]
    exact ⟨"Toggle sidebar (".toList, ")".toList, rfl⟩

end SidebarTree

end DashKit
