import DashKit.Design.Group

/-!
# The History of a Design

Which member a set of preferences has on an axis, told from what happened.

Nothing but a choice changes a set, and a choice changes one axis of one set.
So the member on an axis is the one that was chosen last for it, on that very
set, since the set came to be, and without such a choice the one it came with.
A set comes from options, where an axis that was left out has its default, or it
is a copy and comes with what its source had at that moment. What happens to the
source afterwards is of no concern to it.

The three axes are told apart by `Facet`, so that this is one argument about any
of them. `getElem?_step` is the step: what one move leaves at a place where a set
stood before. The run follows by induction, and `exists_birth` finds the move
that put the set there.

The scheme that is drawn is no part of the history. It is worked out when it is
asked for, from the theme and, for a theme that was left to the host, from one
question to the host, so it cannot be out of date.

## Main definitions

* `Facet`: One of the axes, with its members in preferences, options and
  choices.
* `Designs.run`: A run of moves.
* `Designs.choices`: The members chosen for an axis of a set.
* `Designs.switches`: What the host switched to.
* `Designs.Makes`: A move makes a new set of some preferences.

## Theorems

* `member_choose`: A choice sets its own axis.
* `getElem?_step`, `getElem?_run`: The last choice for an axis holds.
* `exists_birth`, `exists_history`: A set was built or copied once.
* `choose_frame`: A choice touches one axis of one set.
* `scheme_counted`: The host is asked once for a theme that was left to it.
* `last_choice_holds`: These facts at every point of a run.
-/

namespace DashKit

/-- One of the axes of preferences. -/
inductive Facet
  | theme
  | density
  | radius
  deriving DecidableEq, Repr

namespace Facet

/-- The members of an axis. -/
def Member : Facet → Type
  | theme => Theme
  | density => Density
  | radius => Radius

instance (facet : Facet) : Inhabited facet.Member :=
  match facet with
  | theme => inferInstanceAs (Inhabited Theme)
  | density => inferInstanceAs (Inhabited Density)
  | radius => inferInstanceAs (Inhabited Radius)

instance (facet : Facet) : DecidableEq facet.Member :=
  match facet with
  | theme => inferInstanceAs (DecidableEq Theme)
  | density => inferInstanceAs (DecidableEq Density)
  | radius => inferInstanceAs (DecidableEq Radius)

/-- The member that preferences have on an axis. -/
def member : (facet : Facet) → Preferences → facet.Member
  | theme, p => p.theme
  | density, p => p.density
  | radius, p => p.radius

/-- The member that options give for an axis, if they give one. -/
def given? : (facet : Facet) → ProviderOptions → Option facet.Member
  | theme, options => options.theme
  | density, options => options.density
  | radius, options => options.radius

/-- The member that a choice sets on an axis, if it is about that axis. -/
def chosen? : (facet : Facet) → Choice → Option facet.Member
  | theme, .theme value => some value
  | density, .density value => some value
  | radius, .radius value => some value
  | _, _ => none

/-- The member that a move sets on an axis of the set at a place. -/
def set? (facet : Facet) (place : Nat) : Designs.Move → Option facet.Member
  | .choose chosen choice => if chosen = place then facet.chosen? choice else none
  | _ => none

/-- A choice sets its own axis and leaves the others. -/
theorem member_choose (facet : Facet) (p : Preferences) (choice : Choice) :
    facet.member (p.choose choice).2 = (facet.chosen? choice).getD (facet.member p) := by
  -- Only a choice for the axis itself gives it a member; the six others leave it.
  cases facet <;> cases choice <;> rfl

/-- A choice answers whether its member is another one than the axis has. -/
theorem choose_fst {facet : Facet} {choice : Choice} {value : facet.Member}
    (h : facet.chosen? choice = some value) (p : Preferences) :
    (p.choose choice).1 = decide (value ≠ facet.member p) := by
  rw [Bool.eq_iff_iff, decide_eq_true_iff, ne_comm]
  cases facet <;> cases choice <;> cases h <;> exact bne_iff_ne

/-- An axis that was left out of the options has its default. -/
theorem member_preferences (facet : Facet) (options : ProviderOptions) :
    facet.member options.preferences = (facet.given? options).getD default := by
  cases facet <;> rfl

end Facet

/-- The last of some values, where the first element of a list may have one. -/
theorem getD_getLast?_filterMap_cons {α β : Type} (f : α → Option β) (a : α) (as : List α)
    (b : β) :
    ((a :: as).filterMap f).getLast?.getD b =
      (as.filterMap f).getLast?.getD ((f a).getD b) := by
  cases h : f a with
  | none => rw [List.filterMap_cons_none h, Option.getD_none]
  | some value =>
      rw [List.filterMap_cons_some h, List.getLast?_cons, Option.getD_some, Option.getD_some]

namespace Designs

/-- The moves of a run, one after the other. -/
def run (moves : List Move) (designs : Designs) : Designs :=
  moves.foldl (fun designs move => (step move designs).2) designs

/-- The members that moves set on an axis of the set at a place, in order. -/
def choices (facet : Facet) (place : Nat) (moves : List Move) : List facet.Member :=
  moves.filterMap (facet.set? place)

/-- What a move switches the host to. -/
def Move.switched? : Move → Option Bool
  | .switch dark => some dark
  | _ => none

/-- What moves switch the host to, in order. -/
def switches (moves : List Move) : List Bool :=
  moves.filterMap Move.switched?

/-- A choice reaches the set at its place and nothing else. -/
theorem step_choose {designs : Designs} {place : Nat} {p : Preferences}
    (h : designs.sets[place]? = some p) (choice : Choice) :
    step (.choose place choice) designs =
      (some (p.choose choice).1,
        { designs with sets := designs.sets.set place (p.choose choice).2 }) := by
  simp only [step, h]

/-- A set stays at its place, and on every axis it has the member that the move
    sets there, or the one it had. -/
theorem getElem?_step {designs : Designs} {place : Nat} {p : Preferences}
    (h : designs.sets[place]? = some p) (move : Move) :
    ∃ q, (step move designs).2.sets[place]? = some q ∧
      ∀ facet : Facet, facet.member q = (facet.set? place move).getD (facet.member p) := by
  have hlt : place < designs.sets.length := (List.getElem?_eq_some_iff.mp h).1
  cases move with
  | build options => exact ⟨p, (List.getElem?_append_left hlt).trans h, fun _ => rfl⟩
  | switch dark => exact ⟨p, h, fun _ => rfl⟩
  -- A copy stands behind all sets, so the place is one of the old ones.
  | copy source =>
      refine ⟨p, ?_, fun _ => rfl⟩
      simp only [step]
      split
      · exact h
      · exact (List.getElem?_append_left hlt).trans h
  | choose chosen choice =>
      -- A choice for another place leaves this one alone.
      by_cases hc : chosen = place
      · subst hc
        refine ⟨(p.choose choice).2, ?_, ?_⟩
        · rw [step_choose h, List.getElem?_set_self hlt]
        · intro facet
          rw [Facet.set?, if_pos rfl, Facet.member_choose]
      · refine ⟨p, ?_, fun facet => by rw [Facet.set?, if_neg hc, Option.getD_none]⟩
        simp only [step]
        split
        · exact h
        · exact (List.getElem?_set_ne hc).trans h

/-- After a run a set has on every axis the member that was set there last, or
    the one it had. -/
theorem getElem?_run (moves : List Move) {designs : Designs} {place : Nat} {p : Preferences}
    (h : designs.sets[place]? = some p) :
    ∃ q, (run moves designs).sets[place]? = some q ∧
      ∀ facet : Facet,
        facet.member q = (choices facet place moves).getLast?.getD (facet.member p) := by
  induction moves generalizing designs p with
  | nil => exact ⟨p, h, fun _ => rfl⟩
  | cons move moves ih =>
      -- The first move leaves a set at the place, and the later choices are made on that one.
      rcases getElem?_step h move with ⟨first, hfirst, hstep⟩
      rcases ih hfirst with ⟨q, hq, hrest⟩
      refine ⟨q, hq, ?_⟩
      intro facet
      rw [hrest, hstep, choices, choices, getD_getLast?_filterMap_cons]

/-- The host prefers what it was switched to last. -/
theorem prefersDark_run (moves : List Move) (designs : Designs) :
    (run moves designs).prefersDark = (switches moves).getLast?.getD designs.prefersDark := by
  induction moves generalizing designs with
  | nil => rfl
  | cons move moves ih =>
      have hstep : (step move designs).2.prefersDark =
          move.switched?.getD designs.prefersDark := by
        cases move with
        | build _ => rfl
        | switch _ => rfl
        | copy _ =>
            simp only [step]
            split <;> rfl
        | choose _ _ =>
            simp only [step]
            split <;> rfl
      refine (ih _).trans ?_
      rw [hstep, switches, switches, getD_getLast?_filterMap_cons]

/-- The preferences that a move makes a new set of: those of the options, or
    those that the copied set has. -/
inductive Makes (designs : Designs) : Move → Preferences → Prop
  | build (options : ProviderOptions) : Makes designs (.build options) options.preferences
  | copy {source : Nat} {p : Preferences} (h : designs.sets[source]? = some p) :
      Makes designs (.copy source) p

/-- A move puts a new set behind the others, or leaves their number as it
    is. -/
theorem sets_step (move : Move) (designs : Designs) :
    (∃ p, Makes designs move p ∧ (step move designs).2.sets = designs.sets ++ [p]) ∨
      (step move designs).2.sets.length = designs.sets.length := by
  cases move with
  | build options => exact Or.inl ⟨_, .build options, rfl⟩
  | switch dark => exact Or.inr rfl
  | copy source =>
      simp only [step]
      cases h : designs.sets[source]? with
      | none => exact Or.inr rfl
      | some p => exact Or.inl ⟨p, .copy h, rfl⟩
  | choose place choice =>
      refine Or.inr ?_
      simp only [step]
      split
      · rfl
      · exact List.length_set

/-- A set that was not there before a run was made by one of its moves, when
    there were as many sets as its place says. -/
theorem exists_birth {moves : List Move} {designs : Designs} {place : Nat}
    (hnew : designs.sets.length ≤ place) (hlt : place < (run moves designs).sets.length) :
    ∃ before birth after p, moves = before ++ birth :: after ∧
      (run before designs).sets.length = place ∧ Makes (run before designs) birth p := by
  induction moves generalizing designs with
  | nil => exact absurd hlt (Nat.not_lt.mpr hnew)
  | cons move moves ih =>
      -- The place is still free after the first move, or that is the move that fills it.
      by_cases hfirst : (step move designs).2.sets.length ≤ place
      · rcases ih hfirst hlt with ⟨before, birth, after, p, rfl, hplace, hmakes⟩
        exact ⟨move :: before, birth, after, p, rfl, hplace, hmakes⟩
      -- The first move has made the set already.
      · rcases sets_step move designs with ⟨p, hmakes, hsets⟩ | hlength
        · rw [hsets, List.length_append, List.length_singleton] at hfirst
          have hplace : designs.sets.length = place := by omega
          exact ⟨[], move, moves, p, rfl, hplace, hmakes⟩
        · exact absurd (hlength ▸ hnew) hfirst

theorem run_append (before after : List Move) (designs : Designs) :
    run (before ++ after) designs = run after (run before designs) :=
  List.foldl_append

end Designs

/-- What is drawn for a theme, and how often the host was asked for it. -/
theorem Preferences.scheme_counted (p : Preferences) (dark : Bool) (asked : Nat) :
    p.scheme SchemeSource.signal.counted (dark, asked) =
      match p.theme with
      | .light => (.light, dark, asked)
      | .dark => (.dark, dark, asked)
      | .system => (if dark then .dark else .light, dark, asked + 1) := by
  unfold Preferences.scheme
  cases p.theme <;> rfl

namespace Designs

/-- A set that was made is there, with the members it was made with and the
    choices since. -/
theorem getElem?_made (before after : List Move) {birth : Move} {designs : Designs}
    {first : Preferences} (hmakes : Makes (run before designs) birth first) :
    ∃ p, (run (before ++ birth :: after) designs).sets[(run before designs).sets.length]? =
        some p ∧
      ∀ facet : Facet, facet.member p =
        (choices facet (run before designs).sets.length after).getLast?.getD
          (facet.member first) := by
  -- Right after its birth the set has what it was made with.
  have hborn : (step birth (run before designs)).2.sets[(run before designs).sets.length]? =
      some first := by
    cases hmakes with
    | build options => exact List.getElem?_concat_length
    | copy h =>
        simp only [step, h]
        exact List.getElem?_concat_length
  rw [run_append]
  exact getElem?_run after hborn

/-- A set was built or copied at one point of a run, and has the choices since
    on top of what it came with. -/
theorem exists_history {moves : List Move} {designs : Designs} (hempty : designs.sets = [])
    {place : Nat} {p : Preferences} (h : (run moves designs).sets[place]? = some p) :
    ∃ before birth after first, moves = before ++ birth :: after ∧
      (run before designs).sets.length = place ∧ Makes (run before designs) birth first ∧
      ∀ facet : Facet, facet.member p =
        (choices facet place after).getLast?.getD (facet.member first) := by
  -- No set was there at first, so every place is a new one.
  have hnew : designs.sets.length ≤ place := by
    rw [hempty]
    exact Nat.zero_le place
  rcases exists_birth hnew (List.getElem?_eq_some_iff.mp h).1 with
    ⟨before, birth, after, first, rfl, rfl, hmakes⟩
  rcases getElem?_made before after hmakes with ⟨q, hq, hmember⟩
  cases Option.some_inj.mp (h.symm.trans hq)
  exact ⟨before, birth, after, first, rfl, rfl, hmakes, hmember⟩

/-- A choice answers whether it changes its axis, sets that axis of that set,
    and touches nothing else. -/
theorem choose_frame {designs : Designs} {place : Nat} {p : Preferences}
    (h : designs.sets[place]? = some p) (choice : Choice) :
    let reply := step (.choose place choice) designs
    (∀ (facet : Facet) (value : facet.Member), facet.chosen? choice = some value →
      reply.1 = some (decide (value ≠ facet.member p))) ∧
    (∃ q, reply.2.sets[place]? = some q ∧ ∀ facet : Facet,
      facet.member q = (facet.chosen? choice).getD (facet.member p)) ∧
    (∀ other, other ≠ place → reply.2.sets[other]? = designs.sets[other]?) ∧
    reply.2.prefersDark = designs.prefersDark := by
  have hlt : place < designs.sets.length := (List.getElem?_eq_some_iff.mp h).1
  simp only [step_choose h]
  refine ⟨fun facet value hvalue => by rw [Facet.choose_fst hvalue], ?_, ?_, trivial⟩
  · exact ⟨_, List.getElem?_set_self hlt, fun facet => Facet.member_choose facet p choice⟩
  · exact fun other hne => List.getElem?_set_ne hne.symm

/-- At every point of a run that starts without any set:

    * A set was built from options or copied from another set at one point of
      the run, and every set that was built or copied is there. On every axis it
      has the member that was chosen last for that axis of that set since, and
      without such a choice the one that its source had then, or the one that
      its options give, or the default.
    * A choice answers whether its member is another one than the axis has. It
      sets that axis of that set, and touches no other axis, no other set and
      not the host.
    * The scheme is the theme that was chosen, without a question to the host,
      or what the host was switched to last, with one question.
    * The marks on the root are the words of that scheme and of the density and
      the radius, and the properties are the texts of the latter two. -/
theorem last_choice_holds (dark : Bool) (moves : List Move) :
    let start : Designs := ⟨[], dark⟩
    let designs := run moves start
    (∀ place p, designs.sets[place]? = some p → ∃ before birth after,
      moves = before ++ birth :: after ∧ (run before start).sets.length = place ∧
      ((∃ options, birth = .build options ∧ ∀ facet : Facet, facet.member p =
          (choices facet place after).getLast?.getD ((facet.given? options).getD default)) ∨
        ∃ source q, birth = .copy source ∧ (run before start).sets[source]? = some q ∧
          ∀ facet : Facet, facet.member p =
            (choices facet place after).getLast?.getD (facet.member q))) ∧
    (∀ before birth after first, moves = before ++ birth :: after →
      Makes (run before start) birth first →
      (run before start).sets.length < designs.sets.length) ∧
    (∀ place p choice, designs.sets[place]? = some p →
      let reply := step (.choose place choice) designs
      (∀ (facet : Facet) (value : facet.Member), facet.chosen? choice = some value →
        reply.1 = some (decide (value ≠ facet.member p))) ∧
      (∃ q, reply.2.sets[place]? = some q ∧ ∀ facet : Facet,
        facet.member q = (facet.chosen? choice).getD (facet.member p)) ∧
      (∀ other, other ≠ place → reply.2.sets[other]? = designs.sets[other]?) ∧
      reply.2.prefersDark = designs.prefersDark) ∧
    designs.prefersDark = (switches moves).getLast?.getD dark ∧
    ∀ p ∈ designs.sets, ∀ asked,
      let drawn := p.scheme SchemeSource.signal.counted (designs.prefersDark, asked)
      (drawn =
        match p.theme with
        | .light => (.light, designs.prefersDark, asked)
        | .dark => (.dark, designs.prefersDark, asked)
        | .system =>
            (if designs.prefersDark then .dark else .light, designs.prefersDark, asked + 1)) ∧
      p.attributes SchemeSource.signal.counted (designs.prefersDark, asked) =
        ([("data-theme", drawn.1.word), ("data-density", p.density.word),
          ("data-radius", p.radius.word)], drawn.2) ∧
      p.properties = [("--density-scale", p.density.scale), ("--radius", p.radius.length)] := by
  intro start designs
  refine ⟨?_, ?_, fun place p choice h => choose_frame h choice,
    prefersDark_run moves start, fun p _ asked => ⟨p.scheme_counted _ asked, rfl, rfl⟩⟩
  · intro place p h
    rcases exists_history rfl h with ⟨before, birth, after, first, rfl, hplace, hmakes, hmember⟩
    refine ⟨before, birth, after, rfl, hplace, ?_⟩
    cases hmakes with
    | build options =>
        refine Or.inl ⟨options, rfl, ?_⟩
        intro facet
        rw [hmember, Facet.member_preferences]
    | copy hsource => exact Or.inr ⟨_, first, rfl, hsource, hmember⟩
  · rintro before birth after first rfl hmakes
    rcases getElem?_made before after hmakes with ⟨q, hq, _⟩
    exact (List.getElem?_eq_some_iff.mp hq).1

/-- A dark design is copied, its copy is made compact and is then left to the
    host, which turns dark. The copy keeps the radius of its source and the
    source keeps its density. Making the copy compact again changes nothing. -/
theorem last_choice_holds_copied :
    let moves : List Move :=
      [.build { theme := some .dark }, .choose 0 (.radius .xl), .copy 0,
        .choose 1 (.density .compact), .choose 1 (.theme .system), .switch true]
    let start : Designs := ⟨[], false⟩
    let designs := run moves start
    let copied : Preferences := { theme := .system, density := .compact, radius := .xl }
    designs.sets = [{ theme := .dark, radius := .xl }, copied] ∧
      (∃ before birth after,
        moves = before ++ birth :: after ∧ (run before start).sets.length = 1 ∧
        ((∃ options, birth = .build options ∧ ∀ facet : Facet, facet.member copied =
            (choices facet 1 after).getLast?.getD ((facet.given? options).getD default)) ∨
          ∃ source q, birth = .copy source ∧ (run before start).sets[source]? = some q ∧
            ∀ facet : Facet, facet.member copied =
              (choices facet 1 after).getLast?.getD (facet.member q))) ∧
      (step (.choose 1 (.density .compact)) designs).1 = some false ∧
      copied.scheme SchemeSource.signal.counted (designs.prefersDark, 0) =
        (.dark, designs.prefersDark, 1) := by
  intro moves start designs copied
  rcases last_choice_holds false moves with ⟨hhistory, _, hchoose, _, hdrawn⟩
  have hcopied : designs.sets[1]? = some copied := by decide
  refine ⟨by decide, hhistory 1 copied hcopied, ?_, ?_⟩
  · exact (hchoose 1 copied (.density .compact) hcopied).1 .density .compact rfl
  · exact (hdrawn copied (List.mem_of_getElem? hcopied) 0).1

end Designs

end DashKit
