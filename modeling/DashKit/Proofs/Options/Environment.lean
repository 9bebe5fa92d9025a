import DashKit.Proofs.Options.Gathering

/-!
# Options From the Variables of a Process

What becomes of variables that hold bytes.

A variable may be unset, it may hold a text, and it may hold bytes that encode
no text at all. `Answered` says what a caller is owed in each case: options if
every variable that is set holds a text that trims to a word of its axis, and
a fault if one does not, whether for a wrong word or for bytes that are no word.

The lookup that options are gathered from does not tell the last case from the
first. Bytes that encode no text are looked up as if the variable were unset,
so gathering never hears of them, and a setting that was meant to be there is
left at its default. What is answered is therefore what is owed for the
variables that can be read, and for those alone. It is what is owed for all of
them unless the only thing wrong is a variable that cannot be read: a wrong
word in another variable is reported all the same.

## Main definitions

* `Environment.Illegible`: A variable holds bytes that encode no text.
* `Environment.Fits`: A variable holds nothing but a word of its axis.
* `Environment.Sets`: What a variable sets a preference to.
* `Environment.Answered`: What a caller is owed.
* `Environment.legible`: The variables that can be read.

## Theorems

* `fromUTF8?_eq_some`: Which bytes are read as a text.
* `fits_iff`: A variable fits if it can be read and is not at fault.
* `answered_of_legible`: Where all variables can be read, callers are answered.
* `ofEnvironment_answered_iff`: When they are answered, and what they are told
  otherwise.
* `unreadable_theme_ignored`: A variable that is passed over.
-/

namespace DashKit

/-- Bytes are read as a text exactly if they are its encoding. -/
theorem fromUTF8?_eq_some {bytes : ByteArray} {text : String} :
    String.fromUTF8? bytes = some text ↔ bytes = text.toUTF8 := by
  unfold String.fromUTF8?
  constructor
  · intro h
    -- Only bytes that are an encoding are taken for a text.
    split at h
    · next hvalid =>
        rw [← Option.some.inj h]
        rfl
    · simp only [reduceCtorEq] at h
  · rintro rfl
    exact dif_pos text.isValidUTF8

namespace Environment

/-- A variable is set to bytes that encode no text. -/
def Illegible (environment : Environment) (name : String) : Prop :=
  ∃ bytes, environment name = some bytes ∧ ∀ text : String, bytes ≠ text.toUTF8

/-- If a variable is set at all, it is set to a text that trims to a word of
    its axis. -/
def Fits (environment : Environment) (v : Variable) : Prop :=
  ∀ bytes, environment v.name = some bytes →
    ∃ text : String, bytes = text.toUTF8 ∧ Text.trimmed text ∈ v.words

/-- A variable is set to a text that trims to the word of a member, or it is
    not set and there is no member. -/
def Sets (environment : Environment) (name : String) {α : Type} [Axis α] : Option α → Prop
  | none => environment name = none
  | some a => ∃ text : String, environment name = some text.toUTF8 ∧
      Text.trimmed text = Axis.word a

open ProviderOptions in
/-- What is owed to a caller: options if all three variables fit, and then the
    members they are set to, and otherwise a fault that names an axis. -/
structure Answered (environment : Environment) (answer : Except Fault ProviderOptions) :
    Prop where
  accepts : (∃ options, answer = .ok options) ↔ ∀ v ∈ lookedUp, environment.Fits v
  gives : ∀ options, answer = .ok options → environment.Sets themeName options.theme ∧
    environment.Sets densityName options.density ∧ environment.Sets radiusName options.radius
  refuses : ∀ fault, answer = .error fault →
    ∃ v ∈ lookedUp, ∃ value, fault = .invalidPreference v.label value

/-- The variables that can be read, and no others. -/
def legible (environment : Environment) : Environment :=
  fun name => (environment name).filter fun bytes => (String.fromUTF8? bytes).isSome

variable {environment : Environment} {name : String}

theorem lookup_eq_some {text : String} :
    environment.lookup name = some text ↔ environment name = some text.toUTF8 := by
  rw [lookup, Option.bind_eq_bind, Option.bind_eq_some_iff]
  simp only [fromUTF8?_eq_some, exists_eq_right]

/-- A variable that can be read is looked up as unset only if it is. -/
theorem lookup_eq_none (h : ¬environment.Illegible name) :
    environment.lookup name = none ↔ environment name = none := by
  constructor
  · intro hnone
    rw [Option.eq_none_iff_forall_ne_some]
    intro bytes hbytes
    -- If the bytes encoded a text, that text would have been looked up.
    refine h ⟨bytes, hbytes, ?_⟩
    intro text htext
    rw [htext, ← lookup_eq_some, hnone] at hbytes
    simp only [reduceCtorEq] at hbytes
  · intro hunset
    rw [lookup, hunset]
    rfl

theorem fault?_ne_none {v : Variable} :
    v.fault? environment.lookup ≠ none ↔
      ∃ text : String, environment v.name = some text.toUTF8 ∧ Text.trimmed text ∉ v.words := by
  simp only [ne_eq, Variable.fault?_eq_none, lookup_eq_some, not_forall, exists_prop]

/-- A variable fits if it can be read and the text in it is not at fault. -/
theorem fits_iff {v : Variable} :
    environment.Fits v ↔ ¬environment.Illegible v.name ∧ v.fault? environment.lookup = none := by
  constructor
  · intro h
    refine ⟨?_, Variable.fault?_eq_none.mpr fun text htext => ?_⟩
    · rintro ⟨bytes, hbytes, hillegible⟩
      rcases h bytes hbytes with ⟨text, htext, _⟩
      exact hillegible text htext
    -- Bytes encode one text only, so the word is in the text that is looked up.
    · rcases h _ (lookup_eq_some.mp htext) with ⟨read, hread, hword⟩
      rwa [String.toByteArray_inj.mp hread]
  · rintro ⟨hlegible, hfault⟩ bytes hbytes
    by_cases htext : ∃ text : String, bytes = text.toUTF8
    · rcases htext with ⟨text, rfl⟩
      exact ⟨text, rfl, Variable.fault?_eq_none.mp hfault text (lookup_eq_some.mpr hbytes)⟩
    · exact absurd ⟨bytes, hbytes, not_exists.mp htext⟩ hlegible

theorem sets_iff {α : Type} [Axis α] {member : Option α} (h : ¬environment.Illegible name) :
    environment.Sets name member ↔ environment.lookup.Sets name member := by
  unfold Lookup.Sets
  -- Both sides speak of one variable, by its bytes or by the text in them.
  cases member with
  | none =>
      rw [Option.map_none, Option.map_eq_none_iff, lookup_eq_none h]
      rfl
  | some a =>
      rw [Option.map_some, Option.map_eq_some_iff]
      simp only [lookup_eq_some]
      rfl

/-! ### What is passed over -/

theorem legible_eq_some {bytes : ByteArray} :
    environment.legible name = some bytes ↔
      environment name = some bytes ∧ ∃ text : String, bytes = text.toUTF8 := by
  simp only [legible, Option.filter_eq_some_iff, Option.isSome_iff_exists, fromUTF8?_eq_some]

theorem not_illegible_legible : ¬environment.legible.Illegible name := by
  rintro ⟨bytes, hbytes, hillegible⟩
  rcases (legible_eq_some.mp hbytes).2 with ⟨text, htext⟩
  exact hillegible text htext

/-- Nothing else is looked up than the variables that can be read. -/
theorem lookup_legible (environment : Environment) :
    environment.legible.lookup = environment.lookup := by
  funext name
  -- What is looked up is a text, and only bytes that encode none were left out.
  refine Option.ext ?_
  intro text
  rw [lookup_eq_some, lookup_eq_some, legible_eq_some]
  exact and_iff_left ⟨text, rfl⟩

end Environment

namespace ProviderOptions

variable {environment : Environment}

theorem ofEnvironment_legible (environment : Environment) :
    ofEnvironment environment.legible = ofEnvironment environment := by
  rw [ofEnvironment, ofEnvironment, Environment.lookup_legible]

/-- A fault names the axis of a variable. -/
theorem label_of_ofEnvironment {fault : Fault} (h : ofEnvironment environment = .error fault) :
    ∃ v ∈ lookedUp, ∃ value, fault = .invalidPreference v.label value := by
  -- What is reported is the first fault among the variables, in their order.
  have hfound := ((ofLookup_faults environment.lookup).1 fault).mp h
  rcases List.exists_of_findSome?_eq_some hfound with ⟨v, hv, hfault⟩
  rcases Option.bind_eq_some_iff.mp hfault with ⟨raw, _, hraw⟩
  rw [Option.ite_none_left_eq_some, Option.some_inj] at hraw
  exact ⟨v, hv, _, hraw.2.symm⟩

/-- Where all three variables can be read, the caller gets what it is owed. -/
theorem answered_of_legible (h : ∀ v ∈ lookedUp, ¬environment.Illegible v.name) :
    environment.Answered (ofEnvironment environment) where
  accepts := by
    refine (exists_ofLookup environment.lookup).trans (forall₂_congr ?_)
    intro v hv
    rw [Environment.fits_iff]
    exact (and_iff_right (h v hv)).symm
  gives options hok := by
    simp only [lookedUp, List.forall_mem_cons] at h
    rcases h with ⟨htheme, hdensity, hradius, _⟩
    rcases ofLookup_eq_ok.mp hok with ⟨hsetsTheme, hsetsDensity, hsetsRadius⟩
    exact ⟨(Environment.sets_iff htheme).mpr hsetsTheme,
      (Environment.sets_iff hdensity).mpr hsetsDensity,
      (Environment.sets_iff hradius).mpr hsetsRadius⟩
  refuses _ herror := label_of_ofEnvironment herror

/-- A caller always gets what is owed for the variables that can be read. That
    is what is owed for all of them exactly if all three can be read, or if a
    text in one of them is no word of its axis. -/
theorem ofEnvironment_answered_iff (environment : Environment) :
    environment.legible.Answered (ofEnvironment environment) ∧
    (environment.Answered (ofEnvironment environment) ↔
      (∀ v ∈ lookedUp, ¬environment.Illegible v.name) ∨
        ∃ v ∈ lookedUp, ∃ text : String, environment v.name = some text.toUTF8 ∧
          Text.trimmed text ∉ v.words) := by
  -- Looking up does not see what cannot be read, so the answer fits what can.
  have hlegible : environment.legible.Answered (ofEnvironment environment) := by
    rw [← ofEnvironment_legible]
    exact answered_of_legible fun _ _ => Environment.not_illegible_legible
  have hok := exists_ofLookup environment.lookup
  refine ⟨hlegible, ?_, ?_⟩
  · intro h
    by_cases hfault : ∀ v ∈ lookedUp, v.fault? environment.lookup = none
    -- There are options, so every variable has to fit.
    · exact Or.inl fun v hv => (Environment.fits_iff.mp (h.accepts.mp (hok.mpr hfault) v hv)).1
    · simp only [not_forall] at hfault
      rcases hfault with ⟨v, hv, hne⟩
      exact Or.inr ⟨v, hv, Environment.fault?_ne_none.mp hne⟩
  · rintro (hall | ⟨v, hv, hword⟩)
    · exact answered_of_legible hall
    -- There are no options, and there should be none.
    · have hne : v.fault? environment.lookup ≠ none := Environment.fault?_ne_none.mpr hword
      have hnone : ¬∃ options, ofEnvironment environment = .ok options :=
        fun hsome => hne (hok.mp hsome v hv)
      refine ⟨iff_of_false hnone fun hfits => hne (Environment.fits_iff.mp (hfits v hv)).2,
        fun options hsome => absurd ⟨options, hsome⟩ hnone,
        fun _ herror => label_of_ofEnvironment herror⟩

/-- A process whose theme is set to bytes that encode no text. -/
def unreadableTheme : Environment := fun name =>
  if name = themeName then some ⟨#[0xff, 0xfe]⟩ else none

/-- The theme is left at its default, as if nobody had set it. -/
theorem unreadable_theme_ignored :
    unreadableTheme.Illegible themeName ∧
      ofEnvironment unreadableTheme = .ok {} ∧
      ¬unreadableTheme.Answered (ofEnvironment unreadableTheme) := by
  have hillegible : unreadableTheme.Illegible themeName := by
    have hnone : String.fromUTF8? ⟨#[0xff, 0xfe]⟩ = none := by decide
    refine ⟨⟨#[0xff, 0xfe]⟩, rfl, ?_⟩
    intro text htext
    rw [← fromUTF8?_eq_some, hnone] at htext
    simp only [reduceCtorEq] at htext
  have hok : ofEnvironment unreadableTheme = .ok {} := by decide
  refine ⟨hillegible, hok, ?_⟩
  intro h
  have hfits := h.accepts.mp ⟨_, hok⟩ _ List.mem_cons_self
  exact (Environment.fits_iff.mp hfits).1 hillegible

end ProviderOptions

end DashKit
