import Mathlib.Data.List.Induction
import Mathlib.Logic.Relation
import DashKit.Host

/-!
# Families of Handles

What is read through a handle, told from everything that was done through the
handles it is related to by copying.

A copy may be copied again, before or after its source was used, and it makes no
difference which of the handles a change goes through. So handles come in
families: `Kin` is the equivalence that the copies of a run generate, in either
direction and over any number of steps. Each family goes back to one content,
and `read?_run` says that a handle of the family reads that content with all the
changes that went through the family, in the order in which they were made.

Shared contents have no families, they have places. The two are the same thing,
which is `kin_iff`. A copy has the place of its source, and places never change,
so related handles have one place. In the other direction, a place is new when
its content is, and from then on the only way to come by it is to copy a handle
that has it. That a new place is new needs an invariant: every place that was
given out is the place of a content.

## Main definitions

* `Shared.run`: A run of deeds.
* `Shared.Copied`, `Shared.Kin`: One handle is a copy of another, and handles
  are related by copying.
* `Shared.Founds`: A handle is the first of its family.
* `Shared.changes`, `Shared.through`: The changes of a run, and those that went
  through a family.
* `Shared.carryOut`: Changes, one after the other.

## Theorems

* `place_step`, `place_run`: Handles keep their places.
* `sound_run`: Every handle stands for a content.
* `contents_run`: A content has the changes that went through its place.
* `kin_iff`: Families are places.
* `read?_run`: A handle reads what its family did.
* `exists_founder`: Every handle has a family.
* `read?_step_of_not_kin`: A deed touches no other family.
-/

namespace DashKit

namespace Shared

variable {σ ω : Type} (apply : ω → σ → σ)

/-- The deeds of a run, one after the other. -/
def run (deeds : List (Deed σ ω)) (shared : Shared σ) : Shared σ :=
  deeds.foldl (fun shared deed => shared.step apply deed) shared

/-- A run from nothing made `copy` as a copy of `source`, which was there. -/
def Copied (deeds : List (Deed σ ω)) (source copy : Nat) : Prop :=
  ∃ before after, deeds = before ++ .copy source :: after ∧
    (run apply before {}).handles.length = copy ∧ source < copy

/-- Two handles of a run from nothing are related by copying. -/
def Kin (deeds : List (Deed σ ω)) : Nat → Nat → Prop :=
  Relation.EqvGen (Copied apply deeds)

/-- A run from nothing made a new content with this handle. -/
def Founds (deeds : List (Deed σ ω)) (founder : Nat) (content : σ) : Prop :=
  ∃ before after, deeds = before ++ .add content :: after ∧
    (run apply before {}).handles.length = founder

/-- The change that a deed makes, with the handle it goes through. What is
    addressed to a handle that was not given out changes nothing. -/
def change? (shared : Shared σ) : Deed σ ω → Option (Nat × ω)
  | .change handle order => if handle < shared.handles.length then some (handle, order) else none
  | _ => none

/-- The changes of a run, in order. -/
def changes : List (Deed σ ω) → Shared σ → List (Nat × ω)
  | [], _ => []
  | deed :: deeds, shared =>
      (shared.change? deed).toList ++ changes deeds (shared.step apply deed)

/-- Changes carried out on a content, one after the other. -/
def carryOut (orders : List ω) (content : σ) : σ :=
  orders.foldl (fun content order => apply order content) content

theorem run_cons (deed : Deed σ ω) (deeds : List (Deed σ ω)) (shared : Shared σ) :
    run apply (deed :: deeds) shared = run apply deeds (shared.step apply deed) :=
  rfl

theorem run_append (before after : List (Deed σ ω)) (shared : Shared σ) :
    run apply (before ++ after) shared = run apply after (run apply before shared) :=
  List.foldl_append

theorem changes_append (before after : List (Deed σ ω)) (shared : Shared σ) :
    changes apply (before ++ after) shared =
      changes apply before shared ++ changes apply after (run apply before shared) := by
  induction before generalizing shared with
  | nil => rfl
  | cons deed before ih =>
      simp only [List.cons_append, changes, ih, List.append_assoc]
      rfl

/-! ## Places -/

/-- A deed gives a handle out, or leaves the handles as they are. -/
theorem handles_step (deed : Deed σ ω) (shared : Shared σ) :
    (∃ place, (shared.step apply deed).handles = shared.handles ++ [place]) ∨
      (shared.step apply deed).handles = shared.handles := by
  cases deed with
  | add content => exact Or.inl ⟨_, rfl⟩
  | copy handle =>
      simp only [step]
      split
      · exact Or.inr rfl
      · exact Or.inl ⟨_, rfl⟩
  | change handle order =>
      simp only [step]
      split <;> exact Or.inr rfl

/-- A handle keeps its place over a deed. -/
theorem place_step (deed : Deed σ ω) {shared : Shared σ} {handle : Nat}
    (h : handle < shared.handles.length) :
    (shared.step apply deed).handles[handle]? = shared.handles[handle]? := by
  rcases handles_step apply deed shared with ⟨place, hstep⟩ | hstep
  · rw [hstep, List.getElem?_append_left h]
  · rw [hstep]

theorem handles_length_step (deed : Deed σ ω) (shared : Shared σ) :
    shared.handles.length ≤ (shared.step apply deed).handles.length := by
  rcases handles_step apply deed shared with ⟨place, hstep⟩ | hstep
  · rw [hstep, List.length_append]
    exact Nat.le_add_right _ _
  · exact Nat.le_of_eq (congrArg List.length hstep).symm

theorem handles_length_run (deeds : List (Deed σ ω)) (shared : Shared σ) :
    shared.handles.length ≤ (run apply deeds shared).handles.length := by
  induction deeds generalizing shared with
  | nil => exact Nat.le_refl _
  | cons deed deeds ih => exact Nat.le_trans (handles_length_step apply deed shared) (ih _)

/-- A handle keeps its place over a run. -/
theorem place_run (deeds : List (Deed σ ω)) {shared : Shared σ} {handle : Nat}
    (h : handle < shared.handles.length) :
    (run apply deeds shared).handles[handle]? = shared.handles[handle]? := by
  induction deeds generalizing shared with
  | nil => rfl
  | cons deed deeds ih =>
      refine Eq.trans (ih ?_) (place_step apply deed h)
      exact Nat.lt_of_lt_of_le h (handles_length_step apply deed shared)

/-- Every handle stands for a content. -/
def Sound (shared : Shared σ) : Prop :=
  ∀ place ∈ shared.handles, place < shared.contents.length

theorem sound_step (deed : Deed σ ω) {shared : Shared σ} (h : shared.Sound) :
    (shared.step apply deed).Sound := by
  intro place hplace
  cases deed with
  | add content =>
      simp only [step, List.mem_append, List.mem_singleton, List.length_append,
        List.length_singleton] at hplace ⊢
      rcases hplace with hplace | rfl
      · exact Nat.lt_succ_of_lt (h place hplace)
      · exact Nat.lt_succ_self _
  -- A copy stands for the content of its source, which is one that is there.
  | copy source =>
      simp only [step] at hplace ⊢
      split at hplace
      · exact h place hplace
      · next sourcePlace hsource =>
          rcases List.mem_append.mp hplace with hplace | hplace
          · exact h place hplace
          · rw [List.mem_singleton.mp hplace]
            exact h sourcePlace (List.mem_of_getElem? hsource)
  | change changed order =>
      simp only [step] at hplace ⊢
      split at hplace
      · exact h place hplace
      · rw [List.length_modify]
        exact h place hplace

theorem sound_run (deeds : List (Deed σ ω)) {shared : Shared σ} (h : shared.Sound) :
    (run apply deeds shared).Sound := by
  induction deeds generalizing shared with
  | nil => exact h
  | cons deed deeds ih => exact ih (sound_step apply deed h)

theorem sound_run_empty (deeds : List (Deed σ ω)) : (run apply deeds {}).Sound :=
  sound_run apply deeds fun _ hplace => absurd hplace List.not_mem_nil

/-! ## Contents -/

theorem lt_of_change? {shared : Shared σ} {deed : Deed σ ω} {change : Nat × ω}
    (h : shared.change? deed = some change) : change.1 < shared.handles.length := by
  cases deed with
  | change handle order =>
      rw [change?, Option.ite_none_right_eq_some] at h
      rw [← Option.some_inj.mp h.2]
      exact h.1
  | add content => exact absurd h (Option.some_ne_none _).symm
  | copy source => exact absurd h (Option.some_ne_none _).symm

/-- Changes go through handles that are there. -/
theorem lt_of_mem_changes {deeds : List (Deed σ ω)} {shared : Shared σ} {change : Nat × ω}
    (h : change ∈ changes apply deeds shared) :
    change.1 < (run apply deeds shared).handles.length := by
  induction deeds generalizing shared with
  | nil => exact absurd h List.not_mem_nil
  | cons deed deeds ih =>
      rw [changes, List.mem_append, Option.mem_toList] at h
      rcases h with h | h
      · exact Nat.lt_of_lt_of_le (lt_of_change? h)
          (handles_length_run apply (deed :: deeds) shared)
      · exact ih h

/-- After a deed a content has the change that the deed made, if it went through
    a handle with that place. -/
theorem contents_step (deed : Deed σ ω) {shared : Shared σ} {place : Nat} {content : σ}
    (h : shared.contents[place]? = some content) :
    (shared.step apply deed).contents[place]? =
      some (carryOut apply (((shared.change? deed).toList.filter fun change =>
        shared.handles[change.1]? = some place).map Prod.snd) content) := by
  cases deed with
  | add added =>
      exact Eq.trans (List.getElem?_append_left (List.getElem?_eq_some_iff.mp h).1) h
  | copy source =>
      simp only [step]
      split <;> exact h
  | change changed order =>
      simp only [step, change?]
      cases hplace : shared.handles[changed]? with
      | none =>
          -- A handle that was not given out has no place, so nothing changes.
          rw [if_neg (Nat.not_lt.mpr (List.getElem?_eq_none_iff.mp hplace))]
          exact h
      | some changedPlace =>
          rw [if_pos (List.getElem?_eq_some_iff.mp hplace).1]
          -- The change reaches this content, or the one at another place.
          by_cases hp : changedPlace = place
          · subst hp
            simp [hplace, h, carryOut]
          · simp [hplace, h, hp, carryOut]

/-- A run applies to a content the changes that went through its place, in
    order. -/
theorem contents_run (deeds : List (Deed σ ω)) {shared : Shared σ} {place : Nat} {content : σ}
    (h : shared.contents[place]? = some content) :
    (run apply deeds shared).contents[place]? =
      some (carryOut apply (((changes apply deeds shared).filter fun change =>
        (run apply deeds shared).handles[change.1]? = some place).map Prod.snd) content) := by
  induction deeds generalizing shared content with
  | nil => exact h
  | cons deed deeds ih =>
      -- The handle of a change was there when the change was made, so it has had its place since.
      have hfirst : ((shared.change? deed).toList.filter fun change =>
            (run apply (deed :: deeds) shared).handles[change.1]? = some place) =
          (shared.change? deed).toList.filter fun change =>
            shared.handles[change.1]? = some place := by
        refine List.filter_congr ?_
        intro change hchange
        rw [run_cons, place_run apply deeds, place_step apply deed]
        · exact lt_of_change? (Option.mem_toList.mp hchange)
        · exact Nat.lt_of_lt_of_le (lt_of_change? (Option.mem_toList.mp hchange))
            (handles_length_step apply deed shared)
      rw [changes, List.filter_append, hfirst, List.map_append, carryOut, List.foldl_append]
      exact ih (contents_step apply deed h)

/-! ## Families -/

theorem Copied.append {before : List (Deed σ ω)} {source copy : Nat}
    (h : Copied apply before source copy) (after : List (Deed σ ω)) :
    Copied apply (before ++ after) source copy := by
  rcases h with ⟨first, last, rfl, hcopy⟩
  exact ⟨first, last ++ after, List.append_assoc _ _ _, hcopy⟩

theorem Founds.append {before : List (Deed σ ω)} {founder : Nat} {content : σ}
    (h : Founds apply before founder content) (after : List (Deed σ ω)) :
    Founds apply (before ++ after) founder content := by
  rcases h with ⟨first, last, rfl, hfounder⟩
  exact ⟨first, last ++ after, List.append_assoc _ _ _, hfounder⟩

/-- Handles stay related while a run goes on. -/
theorem Kin.append {before : List (Deed σ ω)} {left right : Nat}
    (h : Kin apply before left right) (after : List (Deed σ ω)) :
    Kin apply (before ++ after) left right :=
  h.mono fun _ _ hcopied => hcopied.append apply after

/-- A copy has the place of its source. -/
theorem place_of_copied {deeds : List (Deed σ ω)} {source copy : Nat}
    (h : Copied apply deeds source copy) :
    ∃ place, (run apply deeds {}).handles[source]? = some place ∧
      (run apply deeds {}).handles[copy]? = some place := by
  rcases h with ⟨before, after, rfl, rfl, hlt⟩
  -- The place of the source is what the copy is given.
  have hstep : ((run apply before {}).step apply (.copy source)).handles =
      (run apply before {}).handles ++ [(run apply before {}).handles[source]] := by
    simp only [step, List.getElem?_eq_getElem hlt]
  have hlength : (run apply before {}).handles.length <
      ((run apply before {}).step apply (.copy source)).handles.length := by
    rw [hstep, List.length_append]
    exact Nat.lt_succ_self _
  refine ⟨(run apply before {}).handles[source], ?_, ?_⟩ <;>
    rw [run_append, run_cons]
  · rw [place_run apply after (Nat.lt_trans hlt hlength), hstep, List.getElem?_append_left hlt,
      List.getElem?_eq_getElem hlt]
  · rw [place_run apply after hlength, hstep, List.getElem?_concat_length]

/-- Related handles are one handle, or have one place. -/
theorem place_of_kin {deeds : List (Deed σ ω)} {left right : Nat}
    (h : Kin apply deeds left right) :
    left = right ∨ ∃ place, (run apply deeds {}).handles[left]? = some place ∧
      (run apply deeds {}).handles[right]? = some place := by
  -- Copies have the place of their source, and places are carried along every chain.
  induction h with
  | rel source copy hcopied => exact Or.inr (place_of_copied apply hcopied)
  | refl handle => exact Or.inl rfl
  | symm left right _ ih =>
      exact ih.imp Eq.symm fun ⟨place, hleft, hright⟩ => ⟨place, hright, hleft⟩
  | trans left middle right _ _ ihleft ihright =>
      rcases ihleft with rfl | ⟨place, hleft, hmiddle⟩
      · exact ihright
      · rcases ihright with rfl | ⟨other, hmiddle', hright⟩
        · exact Or.inr ⟨place, hleft, hmiddle⟩
        · cases Option.some_inj.mp (hmiddle.symm.trans hmiddle')
          exact Or.inr ⟨place, hleft, hright⟩

/-- What stands behind a list of places is the one place that was added. -/
theorem last_of_getElem?_concat {places : List Nat} {added handle place : Nat}
    (h : (places ++ [added])[handle]? = some place) (hnew : ¬ handle < places.length) :
    handle = places.length ∧ place = added := by
  have hlt := (List.getElem?_eq_some_iff.mp h).1
  rw [List.length_append, List.length_singleton] at hlt
  -- It is not among the old places, so it is the last one.
  have hhandle : handle = places.length := by omega
  rw [hhandle, List.getElem?_concat_length] at h
  exact ⟨hhandle, (Option.some_inj.mp h).symm⟩

/-- Where a handle comes from that is there after one more deed: it has the place
    of a related handle that was there before, or the deed has founded it. -/
theorem exists_origin {deeds : List (Deed σ ω)} {deed : Deed σ ω} {handle place : Nat}
    (h : (run apply (deeds ++ [deed]) {}).handles[handle]? = some place) :
    (∃ origin, Kin apply (deeds ++ [deed]) origin handle ∧
      (run apply deeds {}).handles[origin]? = some place) ∨
    ∃ content, deed = .add content ∧ handle = (run apply deeds {}).handles.length ∧
      place = (run apply deeds {}).contents.length := by
  by_cases hlt : handle < (run apply deeds {}).handles.length
  · refine Or.inl ⟨handle, .refl _, ?_⟩
    rwa [run_append, place_run apply [deed] hlt] at h
  -- Otherwise the deed has given the handle out.
  replace h : ((run apply deeds {}).step apply deed).handles[handle]? = some place := by
    rwa [run_append] at h
  cases deed with
  | add content =>
      rcases last_of_getElem?_concat h hlt with ⟨hhandle, hplace⟩
      exact Or.inr ⟨content, rfl, hhandle, hplace⟩
  | copy source =>
      simp only [step] at h
      split at h
      · exact absurd (List.getElem?_eq_some_iff.mp h).1 hlt
      · next sourcePlace hsource =>
          rcases last_of_getElem?_concat h hlt with ⟨rfl, rfl⟩
          have hthere := (List.getElem?_eq_some_iff.mp hsource).1
          exact Or.inl ⟨source, .rel _ _ ⟨deeds, [], rfl, rfl, hthere⟩, hsource⟩
  | change changed order =>
      simp only [step] at h
      split at h <;> exact absurd (List.getElem?_eq_some_iff.mp h).1 hlt

theorem place_lt {deeds : List (Deed σ ω)} {handle place : Nat}
    (h : (run apply deeds {}).handles[handle]? = some place) :
    place < (run apply deeds {}).contents.length :=
  sound_run_empty apply deeds place (List.mem_of_getElem? h)

/-- Handles with one place are related: the place was new once, and after that it
    has only been copied. -/
theorem kin_of_place_eq {deeds : List (Deed σ ω)} {left right place : Nat}
    (hleft : (run apply deeds {}).handles[left]? = some place)
    (hright : (run apply deeds {}).handles[right]? = some place) :
    Kin apply deeds left right := by
  -- Taken back to the deed before, both come from handles that had the place, or from none.
  induction deeds using List.reverseRecOn generalizing left right with
  | nil => exact absurd hleft (Option.some_ne_none _).symm
  | append_singleton deeds deed ih =>
      rcases exists_origin apply hleft with ⟨origin, hkin, horigin⟩ | ⟨_, _, rfl, hplace⟩ <;>
        rcases exists_origin apply hright with ⟨other, hkin', hother⟩ | ⟨_, _, rfl, hplace'⟩
      -- Both come from before, one of them has just been founded, or both have.
      · exact .trans _ _ _ (.symm _ _ hkin)
          (.trans _ _ _ ((ih horigin hother).append apply [deed]) hkin')
      · exact absurd (place_lt apply horigin) (hplace' ▸ Nat.lt_irrefl _)
      · exact absurd (place_lt apply hother) (hplace ▸ Nat.lt_irrefl _)
      · exact .refl _

/-- Handles are related exactly if they are one handle or have one place. -/
theorem kin_iff (deeds : List (Deed σ ω)) (left right : Nat) :
    Kin apply deeds left right ↔ left = right ∨
      ∃ place ∈ (run apply deeds {}).handles,
        (run apply deeds {}).handles[left]? = some place ∧
          (run apply deeds {}).handles[right]? = some place := by
  constructor
  · intro h
    rcases place_of_kin apply h with heq | ⟨place, hleft, hright⟩
    · exact Or.inl heq
    · exact Or.inr ⟨place, List.mem_of_getElem? hleft, hleft, hright⟩
  · rintro (rfl | ⟨place, _, hleft, hright⟩)
    · exact .refl _
    · exact kin_of_place_eq apply hleft hright

instance (deeds : List (Deed σ ω)) (left right : Nat) : Decidable (Kin apply deeds left right) :=
  decidable_of_iff _ (kin_iff apply deeds left right).symm

/-- What went through the handles that are related to a handle, in order. -/
def through (deeds : List (Deed σ ω)) (handle : Nat) : List ω :=
  ((changes apply deeds {}).filter fun change => Kin apply deeds change.1 handle).map Prod.snd

/-- The place of a founder is the place of its content, which reads what went
    through the place. -/
theorem contents_of_founds {deeds : List (Deed σ ω)} {founder : Nat} {content : σ}
    (h : Founds apply deeds founder content) :
    ∃ place, (run apply deeds {}).handles[founder]? = some place ∧
      (run apply deeds {}).contents[place]? =
        some (carryOut apply (((changes apply deeds {}).filter fun change =>
          (run apply deeds {}).handles[change.1]? = some place).map Prod.snd) content) := by
  rcases h with ⟨before, after, rfl, rfl⟩
  let shared : Shared σ := run apply before {}
  let next : Shared σ := shared.step apply (.add content)
  have hrun : run apply (before ++ .add content :: after) {} = run apply after next :=
    run_append apply before _ {}
  have hgiven : next.handles[shared.handles.length]? = some shared.contents.length :=
    List.getElem?_concat_length
  have hplace : (run apply after next).handles[shared.handles.length]? =
      some shared.contents.length := by
    rw [place_run apply after (List.getElem?_eq_some_iff.mp hgiven).1]
    exact hgiven
  -- No handle had the new place before, so no earlier change went through it.
  have hfirst : ((changes apply before {}).filter fun change =>
      (run apply after next).handles[change.1]? = some shared.contents.length) = [] := by
    refine List.filter_eq_nil_iff.mpr ?_
    intro change hchange hthere
    have hlt : change.1 < shared.handles.length := lt_of_mem_changes apply hchange
    rw [decide_eq_true_eq, ← hrun, run_append, place_run apply _ hlt] at hthere
    exact Nat.lt_irrefl _ (place_lt apply hthere)
  refine ⟨shared.contents.length, hrun ▸ hplace, ?_⟩
  rw [hrun, changes_append, List.filter_append, hfirst, List.nil_append]
  exact contents_run apply after List.getElem?_concat_length

/-- A handle reads the first content of its family, with all that went through
    the family. -/
theorem read?_run {deeds : List (Deed σ ω)} {founder handle : Nat} {content : σ}
    (hfounds : Founds apply deeds founder content) (hkin : Kin apply deeds founder handle) :
    (run apply deeds {}).read? handle =
      some (carryOut apply (through apply deeds handle) content) := by
  rcases contents_of_founds apply hfounds with ⟨place, hfounder, hcontent⟩
  have hhandle : (run apply deeds {}).handles[handle]? = some place := by
    rcases place_of_kin apply hkin with rfl | ⟨other, hother, hhandle⟩
    · exact hfounder
    · rwa [← hother.symm.trans hfounder]
  -- The changes through the family are the changes through the place.
  have hfamily : ((changes apply deeds {}).filter fun change =>
        (run apply deeds {}).handles[change.1]? = some place) =
      (changes apply deeds {}).filter fun change => Kin apply deeds change.1 handle := by
    refine List.filter_congr fun change hchange => decide_eq_decide.mpr ⟨?_, ?_⟩
    · intro hplace
      exact kin_of_place_eq apply hplace hhandle
    · intro hrelated
      rcases place_of_kin apply hrelated with heq | ⟨other, hchanged, hother⟩
      · rwa [heq]
      · rwa [← hother.symm.trans hhandle]
  rw [read?, hhandle, Option.bind_some, hcontent, hfamily, through]

/-- Every handle that was given out is in the family of one that a new content
    came with. -/
theorem exists_founder {deeds : List (Deed σ ω)} {handle : Nat}
    (h : handle < (run apply deeds {}).handles.length) :
    ∃ founder content, Founds apply deeds founder content ∧ Kin apply deeds founder handle := by
  -- The last deed has founded the handle, or it is related to one from before.
  induction deeds using List.reverseRecOn generalizing handle with
  | nil => exact absurd h (Nat.not_lt_zero _)
  | append_singleton deeds deed ih =>
      rcases exists_origin apply (List.getElem?_eq_getElem h) with
        ⟨origin, hkin, horigin⟩ | ⟨content, rfl, rfl, _⟩
      · rcases ih (List.getElem?_eq_some_iff.mp horigin).1 with
          ⟨founder, content, hfounds, hfamily⟩
        exact ⟨founder, content, hfounds.append apply _,
          .trans _ _ _ (hfamily.append apply _) hkin⟩
      · exact ⟨_, content, ⟨deeds, [], rfl, rfl⟩, .refl _⟩

/-- A deed that is no change through a related handle leaves what a handle
    reads. -/
theorem read?_step_of_not_kin {deeds : List (Deed σ ω)} {handle : Nat}
    (h : handle < (run apply deeds {}).handles.length) {deed : Deed σ ω}
    (hother : ∀ changed order, deed = .change changed order → ¬ Kin apply deeds changed handle) :
    ((run apply deeds {}).step apply deed).read? handle = (run apply deeds {}).read? handle := by
  have hplace := List.getElem?_eq_getElem h
  rw [read?, read?, place_step apply deed h, hplace, Option.bind_some, Option.bind_some]
  cases deed with
  | add content => exact List.getElem?_append_left (place_lt apply hplace)
  | copy source =>
      simp only [step]
      split <;> rfl
  | change changed order =>
      simp only [step]
      split
      · rfl
      · next changedPlace hchanged =>
          refine List.getElem?_modify_ne _ _ ?_
          rintro rfl
          exact hother changed order rfl (kin_of_place_eq apply hchanged hplace)

end Shared

end DashKit
