import DashKit.Proofs.Codec.Lenient

/-!
# Options That Are Looked Up

What becomes of a lookup that options are gathered from.

A name that is not set is no fault, and neither is a text that trims to the
word of a member. Anything else is, and the first fault is the one that is
reported. Gathering is the same question asked three times, so there is one
lemma for the question (`run_axis`) and one that puts the three together
(`ofLookup_cases`). It says everything that can happen: gathering ends at the
first, the second or the third question, or not at all.

The names that were asked for are a record that gathering keeps. `asked` says
what ought to be in it: the names in their order, up to the first at fault.

The word under a name can be sent as JSON as well. The two ways agree because
both compare a text with the words of the axis, and neither minds how the text
was written down.

## Main definitions

* `Variable`, `ProviderOptions.lookedUp`: A name with the axis it is for.
* `Variable.fault?`: What is wrong with the text under a name.
* `Variable.asked`: The names up to the first at fault.
* `Lookup.Sets`: What a lookup sets a preference to.
* `Lookup.GivenBy`: A record gives the texts of a lookup.

## Theorems

* `ofLookup_cases`: How gathering can end.
* `ofLookup_gathers`: When it succeeds, what it reports otherwise, how far it
  asks, and which records stand for the same options.
-/

namespace DashKit

open Json

/-- A name that a preference is looked up under, with the key of the preference
    in a record and the label and the words of its axis. -/
structure Variable where
  name : String
  key : String
  label : String
  words : List String

namespace Variable

/-- The name of a preference of an axis. -/
def of (name key : String) (α : Type) [Axis α] : Variable where
  name := name
  key := key
  label := Axis.label α
  words := (Axis.members : List α).map Axis.word

@[simp] theorem of_name (name key : String) (α : Type) [Axis α] : (of name key α).name = name :=
  rfl

/-- What is wrong with the text under a name, if it is set and something is. -/
def fault? (lookup : Lookup) (v : Variable) : Option Fault :=
  (lookup v.name).bind fun raw =>
    if Text.trimmed raw ∈ v.words then none
    else some (.invalidPreference v.label (Text.trimmed raw))

theorem fault?_of_set {lookup : Lookup} {v : Variable} {raw : String}
    (h : lookup v.name = some raw) :
    v.fault? lookup = if Text.trimmed raw ∈ v.words then none
      else some (.invalidPreference v.label (Text.trimmed raw)) := by
  rw [fault?, h, Option.bind_some]

theorem fault?_eq_none {lookup : Lookup} {v : Variable} :
    v.fault? lookup = none ↔ ∀ raw, lookup v.name = some raw → Text.trimmed raw ∈ v.words := by
  unfold fault?
  cases lookup v.name with
  | none => simp only [Option.bind_none, reduceCtorEq, false_implies, implies_true]
  | some raw => simp only [Option.bind_some, ite_eq_left_iff, reduceCtorEq, imp_false, not_not,
      Option.some.injEq, forall_eq']

/-- The names up to the first at fault, that one included. -/
def asked (lookup : Lookup) : List Variable → List String
  | [] => []
  | v :: vs => v.name :: if v.fault? lookup = none then asked lookup vs else []

theorem asked_prefix (lookup : Lookup) (vs : List Variable) :
    asked lookup vs <+: vs.map name := by
  induction vs with
  | nil => exact List.prefix_rfl
  | cons v vs ih =>
      rw [asked, List.map_cons, List.prefix_cons_inj]
      by_cases hfault : v.fault? lookup = none
      · rw [if_pos hfault]
        exact ih
      · rw [if_neg hfault]
        exact List.nil_prefix

/-- If no two share a name, one is asked for exactly if nothing before it is at
    fault. -/
theorem mem_asked {lookup : Lookup} {before after : List Variable} {v : Variable}
    (hnames : ((before ++ v :: after).map name).Nodup) :
    v.name ∈ asked lookup (before ++ v :: after) ↔ ∀ w ∈ before, w.fault? lookup = none := by
  induction before with
  | nil => simp only [List.nil_append, asked, List.mem_cons_self, List.not_mem_nil,
      false_implies, implies_true]
  | cons w before ih =>
      rw [List.cons_append, List.map_cons, List.nodup_cons] at hnames
      -- A name that stands in front is another one, so being asked is being asked behind it.
      have hmem : v.name ∈ (before ++ v :: after).map name :=
        List.mem_map_of_mem (List.mem_append_right _ List.mem_cons_self)
      have hne : v.name ≠ w.name := by
        intro heq
        exact hnames.1 (heq ▸ hmem)
      rw [List.cons_append, asked, List.mem_cons, or_iff_right hne, List.forall_mem_cons]
      by_cases hfault : w.fault? lookup = none
      · rw [if_pos hfault, ih hnames.2]
        exact (and_iff_right hfault).symm
      · rw [if_neg hfault]
        exact ⟨fun h => absurd h List.not_mem_nil, fun h => absurd h.1 hfault⟩

end Variable

/-- The two computations of a sequence keep one record. -/
theorem Gathering.run_bind {β γ : Type} (one : Gathering β) (other : β → Gathering γ)
    (names : List String) :
    (one >>= other).run.run names =
      match one.run.run names with
      | (.error fault, names) => (.error fault, names)
      | (.ok b, names) => (other b).run.run names := by
  rw [ExceptT.run_bind, StateT.run_bind]
  rcases one.run.run names with ⟨answer, names⟩
  cases answer <;> rfl

/-! ### One question -/

namespace Lookup

variable {lookup : Lookup} {name : String} {α : Type} [Axis α]

/-- A name is set to a text that trims to the word of a member, or it is not
    set and there is no member. -/
def Sets (lookup : Lookup) (name : String) (member : Option α) : Prop :=
  (lookup name).map Text.trimmed = member.map Axis.word

/-- The answer to one question: the member under a name, if the name is set. -/
def setting (lookup : Lookup) (name : String) : Except Fault (Option α) :=
  match lookup name with
  | none => .ok none
  | some raw => (Axis.read raw).map some

/-- A question is answered and kept in the record. -/
theorem run_axis (names : List String) :
    (lookup.axis name : Gathering (Option α)).run.run names =
      (lookup.setting name, names ++ [name]) := by
  unfold Lookup.axis setting
  cases lookup name with
  | none => rfl
  | some raw =>
      dsimp only
      cases (Axis.read raw : Except Fault α) <;> rfl

theorem setting_eq_ok {member : Option α} :
    lookup.setting name = .ok member ↔ lookup.Sets name member := by
  unfold setting Sets
  cases lookup name with
  | none =>
      rw [Option.map_none, Except.ok.injEq, eq_comm, eq_comm (b := member.map Axis.word),
        Option.map_eq_none_iff]
  | some raw =>
      dsimp only
      cases member with
      | none =>
          cases (Axis.read raw : Except Fault α) <;>
            simp only [Except.map, Except.ok.injEq, Option.map_some, Option.map_none, reduceCtorEq]
      | some a =>
          simp only [Option.map_some, Option.some.injEq, ← Axis.read_eq_ok]
          cases (Axis.read raw : Except Fault α) <;>
            simp only [Except.map, Except.ok.injEq, Option.some.injEq, reduceCtorEq]

/-- What is wrong with the text under a name is what the question is answered
    with. -/
theorem setting_eq_error (key : String) {fault : Fault} :
    (lookup.setting name : Except Fault (Option α)) = .error fault ↔
      (Variable.of name key α).fault? lookup = some fault := by
  unfold setting
  cases hset : lookup name with
  | none =>
      have hunset : (Variable.of name key α).fault? lookup = none := by
        rw [Variable.fault?_eq_none]
        intro raw hraw
        exact absurd (hset.symm.trans hraw) (Option.some_ne_none raw).symm
      simp only [hunset, reduceCtorEq]
  | some raw =>
      have hfault := Variable.fault?_of_set (v := .of name key α) hset
      dsimp only
      rw [hfault, Axis.read]
      -- A text is at fault exactly if no member has its core as a word.
      cases hnamed : (Axis.named? (Text.trimmed raw) : Option α) with
      | none =>
          have hword : Text.trimmed raw ∉ (Variable.of name key α).words :=
            Axis.named?_eq_none.mp hnamed
          rw [if_neg hword]
          simp only [Except.map, Variable.of, Except.error.injEq, Option.some.injEq]
      | some a =>
          have hword : Text.trimmed raw ∈ (Variable.of name key α).words := by
            rw [Axis.named?_eq_some.mp hnamed]
            exact List.mem_map_of_mem (Axis.complete a)
          rw [if_pos hword]
          simp only [Except.map, reduceCtorEq]

/-- A text that sets a preference is not at fault. -/
theorem Sets.fault?_eq_none {member : Option α} (h : lookup.Sets name member) (key : String) :
    (Variable.of name key α).fault? lookup = none := by
  rw [Option.eq_none_iff_forall_ne_some]
  intro fault hfault
  have hok := setting_eq_ok.mpr h
  rw [(setting_eq_error key).mpr hfault] at hok
  simp only [reduceCtorEq] at hok

theorem Sets.unique {one other : Option α} (h : lookup.Sets name one)
    (h' : lookup.Sets name other) : one = other :=
  Except.ok.inj ((setting_eq_ok.mpr h).symm.trans (setting_eq_ok.mpr h'))

end Lookup

namespace ProviderOptions

variable {lookup : Lookup}

/-- The names of the three preferences, in the order in which they are asked
    for. -/
def lookedUp : List Variable :=
  [.of themeName "defaultTheme" Theme, .of densityName "defaultDensity" Density,
   .of radiusName "defaultRadius" Radius]

theorem nodup_lookedUp : (lookedUp.map Variable.name).Nodup := by decide

/-- Gathering ends at the first fault, or with all three preferences. -/
theorem ofLookup_cases (lookup : Lookup) :
    (∃ fault, (Variable.of themeName "defaultTheme" Theme).fault? lookup = some fault ∧
      ofLookup lookup = (.error fault, [themeName])) ∨
    (∃ (theme : Option Theme) (fault : Fault), lookup.Sets themeName theme ∧
      (Variable.of densityName "defaultDensity" Density).fault? lookup = some fault ∧
      ofLookup lookup = (.error fault, [themeName, densityName])) ∨
    (∃ (theme : Option Theme) (density : Option Density) (fault : Fault),
      lookup.Sets themeName theme ∧ lookup.Sets densityName density ∧
      (Variable.of radiusName "defaultRadius" Radius).fault? lookup = some fault ∧
      ofLookup lookup = (.error fault, [themeName, densityName, radiusName])) ∨
    ∃ options : ProviderOptions, lookup.Sets themeName options.theme ∧
      lookup.Sets densityName options.density ∧ lookup.Sets radiusName options.radius ∧
      ofLookup lookup = (.ok options, [themeName, densityName, radiusName]) := by
  unfold ofLookup gather
  -- The three questions are put in a row, and each answer decides whether there is a next.
  simp only [Gathering.run_bind, Lookup.run_axis, List.nil_append]
  cases htheme : (lookup.setting themeName : Except Fault (Option Theme)) with
  | error fault => exact .inl ⟨fault, (Lookup.setting_eq_error _).mp htheme, rfl⟩
  | ok theme =>
      have htheme := Lookup.setting_eq_ok.mp htheme
      cases hdensity : (lookup.setting densityName : Except Fault (Option Density)) with
      | error fault =>
          exact .inr (.inl ⟨theme, fault, htheme, (Lookup.setting_eq_error _).mp hdensity, rfl⟩)
      | ok density =>
          have hdensity := Lookup.setting_eq_ok.mp hdensity
          cases hradius : (lookup.setting radiusName : Except Fault (Option Radius)) with
          | error fault =>
              exact .inr (.inr (.inl ⟨theme, density, fault, htheme, hdensity,
                (Lookup.setting_eq_error _).mp hradius, rfl⟩))
          | ok radius =>
              exact .inr (.inr (.inr ⟨⟨theme, density, radius⟩, htheme, hdensity,
                Lookup.setting_eq_ok.mp hradius, rfl⟩))

theorem ofLookup_eq_ok {options : ProviderOptions} :
    (ofLookup lookup).1 = .ok options ↔
      lookup.Sets themeName options.theme ∧ lookup.Sets densityName options.density ∧
        lookup.Sets radiusName options.radius := by
  constructor
  · intro h
    -- Only the last of the four endings has options to show.
    rcases ofLookup_cases lookup with ⟨_, _, hrun⟩ | ⟨_, _, _, _, hrun⟩ |
      ⟨_, _, _, _, _, _, hrun⟩ | ⟨found, htheme, hdensity, hradius, hrun⟩
    · simp only [hrun, reduceCtorEq] at h
    · simp only [hrun, reduceCtorEq] at h
    · simp only [hrun, reduceCtorEq] at h
    · rw [hrun, Except.ok.injEq] at h
      rw [← h]
      exact ⟨htheme, hdensity, hradius⟩
  · rintro ⟨htheme, hdensity, hradius⟩
    -- The first three need a fault, and none of the names has one.
    rcases ofLookup_cases lookup with ⟨_, hfault, _⟩ | ⟨_, _, _, hfault, _⟩ |
      ⟨_, _, _, _, _, hfault, _⟩ | ⟨found, htheme', hdensity', hradius', hrun⟩
    · simp only [htheme.fault?_eq_none, reduceCtorEq] at hfault
    · simp only [hdensity.fault?_eq_none, reduceCtorEq] at hfault
    · simp only [hradius.fault?_eq_none, reduceCtorEq] at hfault
    · rcases options with ⟨theme, density, radius⟩
      obtain rfl := htheme'.unique htheme
      obtain rfl := hdensity'.unique hdensity
      obtain rfl := hradius'.unique hradius
      rw [hrun]

/-- The first fault is the one that is reported, and no name behind it is asked
    for. -/
theorem ofLookup_faults (lookup : Lookup) :
    (∀ fault, (ofLookup lookup).1 = .error fault ↔
      lookedUp.findSome? (Variable.fault? lookup) = some fault) ∧
    (ofLookup lookup).2 = Variable.asked lookup lookedUp := by
  -- Both sides are worked out for each of the four endings.
  unfold lookedUp
  rcases ofLookup_cases lookup with ⟨fault, hfault, hrun⟩ | ⟨theme, fault, htheme, hfault, hrun⟩ |
    ⟨theme, density, fault, htheme, hdensity, hfault, hrun⟩ |
    ⟨options, htheme, hdensity, hradius, hrun⟩
  · simp only [hrun, Variable.asked, List.findSome?_cons, hfault, Variable.of_name,
      Except.error.injEq, Option.some.injEq, reduceCtorEq, if_false, implies_true, and_self]
  · have htheme := htheme.fault?_eq_none "defaultTheme"
    simp only [hrun, Variable.asked, List.findSome?_cons, htheme, hfault, Variable.of_name,
      Except.error.injEq, Option.some.injEq, reduceCtorEq, if_true, if_false, implies_true,
      and_self]
  · have htheme := htheme.fault?_eq_none "defaultTheme"
    have hdensity := hdensity.fault?_eq_none "defaultDensity"
    simp only [hrun, Variable.asked, List.findSome?_cons, htheme, hdensity, hfault,
      Variable.of_name, Except.error.injEq, Option.some.injEq, reduceCtorEq, if_true, if_false,
      implies_true, and_self]
  · have htheme := htheme.fault?_eq_none "defaultTheme"
    have hdensity := hdensity.fault?_eq_none "defaultDensity"
    have hradius := hradius.fault?_eq_none "defaultRadius"
    simp only [hrun, Variable.asked, List.findSome?_cons, List.findSome?_nil, htheme, hdensity,
      hradius, Variable.of_name, reduceCtorEq, if_true, implies_true, and_self]

theorem exists_ofLookup (lookup : Lookup) :
    (∃ options, (ofLookup lookup).1 = .ok options) ↔
      ∀ v ∈ lookedUp, v.fault? lookup = none := by
  rcases ofLookup_faults lookup with ⟨hreport, _⟩
  rw [← List.findSome?_eq_none_iff]
  cases hrun : (ofLookup lookup).1 with
  | error fault =>
      rw [(hreport fault).mp hrun]
      simp only [reduceCtorEq, exists_false]
  | ok options =>
      have hnot : ∀ fault, lookedUp.findSome? (Variable.fault? lookup) ≠ some fault := by
        intro fault hfault
        have herror := (hreport fault).mpr hfault
        simp only [hrun, reduceCtorEq] at herror
      exact iff_of_true ⟨options, rfl⟩ (Option.eq_none_iff_forall_ne_some.mpr hnot)

end ProviderOptions

/-! ### The same texts in a record -/

/-- A record gives the text under a name: the trimmed text as a string under
    the key of the preference, or nothing if the name is not set. -/
def Variable.GivenBy (v : Variable) (lookup : Lookup) (record : RecordText) : Prop :=
  match lookup v.name with
  | none => record.under v.key = []
  | some raw => GivesText record.entries v.key (Text.trimmed raw)

/-- A record gives the texts of all three names. Whatever else is in it, its
    keys spell something. -/
structure Lookup.GivenBy (lookup : Lookup) (record : RecordText) : Prop where
  spelled : ∀ entry ∈ record.entries, spelling? entry.key ≠ none
  given : ∀ v ∈ ProviderOptions.lookedUp, v.GivenBy lookup record

/-- The entry that gives the text under a name. -/
def Variable.entry? (lookup : Lookup) (v : Variable) : Option (Entry Form) :=
  (lookup v.name).map fun raw => plainEntry v.key (.quoted (plainly (Text.trimmed raw)))

/-- The record of nothing but the texts of a lookup. -/
def Lookup.record (lookup : Lookup) : RecordText where
  before := .none
  opening := .none
  entries := ProviderOptions.lookedUp.filterMap (Variable.entry? lookup)
  after := .none

section Records

variable {lookup : Lookup} {record : RecordText} {name key : String} {α : Type} [Axis α]

theorem Variable.name?_entry {v : Variable} (h : spelling? (plainly v.key) = some v.key.toList)
    {entry : Entry Form} (hentry : v.entry? lookup = some entry) : entry.name? = some v.key := by
  rcases Option.map_eq_some_iff.mp hentry with ⟨raw, _, rfl⟩
  rw [Entry.name?, show spelling? (plainEntry v.key _).key = _ from h, Option.map_some,
    String.ofList_toList]

/-- If no two have a key in common, there is one entry under the key of each
    name that is set. -/
theorem under_entries {vs : List Variable} (hkeys : (vs.map Variable.key).Nodup)
    (hplain : ∀ v ∈ vs, spelling? (plainly v.key) = some v.key.toList) {v : Variable}
    (hv : v ∈ vs) :
    under v.key (vs.filterMap (Variable.entry? lookup)) =
      ((v.entry? lookup).map Entry.value).toList := by
  induction vs with
  | nil => exact absurd hv List.not_mem_nil
  | cons w vs ih =>
      rw [List.map_cons, List.nodup_cons] at hkeys
      rw [List.forall_mem_cons] at hplain
      by_cases hkey : v.key = w.key
      -- The first name has the key, so none of the others has it.
      · have hfresh : v ∉ vs := fun hmem => hkeys.1 (hkey ▸ List.mem_map_of_mem hmem)
        obtain rfl := (List.mem_cons.mp hv).resolve_right hfresh
        have hnone : under v.key (vs.filterMap (Variable.entry? lookup)) = [] := by
          rw [under, List.map_eq_nil_iff, List.filter_eq_nil_iff]
          intro entry hentry hbeq
          rcases List.mem_filterMap.mp hentry with ⟨u, hu, hsome⟩
          have hname := (Variable.name?_entry (hplain.2 u hu) hsome).symm.trans (beq_iff_eq.mp hbeq)
          exact hkeys.1 (Option.some.inj hname ▸ List.mem_map_of_mem hu)
        cases hentry : v.entry? lookup with
        | none => rw [List.filterMap_cons_none hentry, hnone, Option.map_none, Option.toList_none]
        | some entry =>
            rw [List.filterMap_cons_some hentry,
              under_cons_of_eq (Variable.name?_entry hplain.1 hentry), hnone, Option.map_some,
              Option.toList_some]
      -- Another name has the key, so the first entry is passed over.
      · have hmem : v ∈ vs := by
          rcases List.mem_cons.mp hv with rfl | hmem
          · exact absurd rfl hkey
          · exact hmem
        rw [← ih hkeys.2 hplain.2 hmem]
        cases hentry : w.entry? lookup with
        | none => rw [List.filterMap_cons_none hentry]
        | some entry =>
            have hname := Variable.name?_entry hplain.1 hentry
            have hne : entry.name? ≠ some v.key := by
              rw [hname, ne_eq, Option.some.injEq]
              exact fun heq => hkey heq.symm
            rw [List.filterMap_cons_some hentry, under_cons_of_ne hne]

/-- Where every text trims to a word of its axis, the record gives them all. -/
theorem givenBy_record (h : ∀ v ∈ ProviderOptions.lookedUp, v.fault? lookup = none) :
    lookup.GivenBy lookup.record := by
  -- Neither keys nor words need an escape.
  have hplain : ∀ v ∈ ProviderOptions.lookedUp, spelling? (plainly v.key) = some v.key.toList := by
    decide
  have hwords : ∀ v ∈ ProviderOptions.lookedUp, ∀ word ∈ v.words,
      spelling? (plainly word) = some word.toList := by
    decide
  refine ⟨?_, ?_⟩
  · intro entry hentry
    rcases List.mem_filterMap.mp hentry with ⟨v, hv, hsome⟩
    rw [← Entry.name?_ne_none, Variable.name?_entry (hplain v hv) hsome]
    exact Option.some_ne_none _
  · intro v hv
    have hunder := @under_entries lookup ProviderOptions.lookedUp (by decide) hplain v hv
    unfold Variable.GivenBy
    rw [Variable.entry?] at hunder
    cases hname : lookup v.name with
    | none =>
        rw [hname] at hunder
        exact hunder
    | some raw =>
        rw [hname] at hunder
        have hword := Variable.fault?_eq_none.mp (h v hv) raw hname
        exact ⟨_, hunder, _, rfl, hwords v hv _ hword⟩

/-- A string stands for the member that its text names. -/
theorem member?_axis {pieces : List Piece} {text : String}
    (h : spelling? pieces = some text.toList) :
    member? ((Axis.members : List α).map fun a => (Axis.word a, a)) pieces = Axis.named? text := by
  rw [member?, h, Option.bind_some, String.ofList_toList, List.find?_map, Option.map_map]
  exact Option.map_id'

/-- What a record gives at a key is decoded as what the name is set to. -/
theorem Variable.GivenBy.decode [Codec α]
    (hreader : (Codec.reader maxDepth : Reader α) =
      .member maxDepth ((Axis.members : List α).map fun a => (Axis.word a, a)))
    {member : Option α} (h : (Variable.of name key α).GivenBy lookup record)
    (hsets : lookup.Sets name member) :
    (record.under key).length ≤ 1 ∧ (record.under key = [] → member = none) ∧
      ∀ form ∈ record.under key,
        decode (Option α) (String.ofList form.text) = .ok member := by
  -- The name is set exactly if there is a member, and then to its word.
  have hset : (lookup name).map Text.trimmed = member.map Axis.word := hsets
  have hsettled : Settled (Codec.reader maxDepth : Reader α) := by
    rw [hreader]
    exact settled_member maxDepth _
  dsimp only [GivenBy, of] at h
  cases hname : lookup name with
  | none =>
      rw [hname] at h hset
      have hmember : member = none := Option.map_eq_none_iff.mp hset.symm
      rw [h]
      exact ⟨Nat.zero_le 1, fun _ => hmember, fun _ hform => absurd hform List.not_mem_nil⟩
  | some raw =>
      rw [hname] at h hset
      rcases h with ⟨_, hunder, pieces, rfl, hspelling⟩
      rcases Option.map_eq_some_iff.mp hset.symm with ⟨a, rfl, hword⟩
      have hvalue :
          (Codec.reader maxDepth : Reader α).value? (Form.quoted pieces).text = some a := by
        rw [hreader, value?_of_finds_append fun t _ => finds_member_quoted maxDepth _ pieces t,
          member?_axis hspelling]
        exact Axis.named?_eq_some.mpr hword.symm
      -- A string is not the null that stands for no member.
      have hform : Form.quoted pieces ≠ .null := by
        simp only [ne_eq, reduceCtorEq, not_false_eq_true]
      rw [RecordText.under, hunder]
      refine ⟨Nat.le_refl 1, fun hnil => absurd hnil (List.cons_ne_nil _ _), ?_⟩
      rw [List.forall_mem_singleton]
      refine (decode_form_alone (settled_optional hsettled) _ _).mpr ?_
      exact (value?_optional hsettled hform).trans (congrArg (Option.map some) hvalue)

/-- A record that gives the texts of a lookup stands for the options that were
    gathered from it. -/
theorem Lookup.GivenBy.ofJson {options : ProviderOptions} (h : lookup.GivenBy record)
    (hok : (ProviderOptions.ofLookup lookup).1 = .ok options) :
    ProviderOptions.ofJson record.text = .ok options := by
  rcases ProviderOptions.ofLookup_eq_ok.mp hok with ⟨htheme, hdensity, hradius⟩
  have hgiven := h.given
  simp only [ProviderOptions.lookedUp, List.forall_mem_cons] at hgiven
  rcases hgiven with ⟨hgtheme, hgdensity, hgradius, _⟩
  rcases hgtheme.decode rfl htheme with ⟨honetheme, hnotheme, hdtheme⟩
  rcases hgdensity.decode rfl hdensity with ⟨honedensity, hnodensity, hddensity⟩
  rcases hgradius.decode rfl hradius with ⟨honeradius, hnoradius, hdradius⟩
  -- Each key is there at most once, and what it has is what its name was set to.
  have honce : ∀ slot ∈ ProviderOptions.layout.slots, (record.under slot.name).length ≤ 1 := by
    simp only [ProviderOptions.layout, List.forall_mem_cons]
    exact ⟨honetheme, honedensity, honeradius, List.forall_mem_nil _⟩
  have hholds : ∀ slot ∈ ProviderOptions.layout.slots, slot.Holds record options := by
    simp only [ProviderOptions.layout, List.forall_mem_cons]
    exact ⟨⟨hdtheme, hnotheme⟩, ⟨hddensity, hnodensity⟩, ⟨hdradius, hnoradius⟩,
      List.forall_mem_nil _⟩
  have hvalue : ∀ slot ∈ ProviderOptions.layout.slots, ∀ form ∈ record.under slot.name,
      ∃ v, slot.Decodes form v :=
    fun slot hslot form hform => ⟨_, (hholds slot hslot).given form hform⟩
  -- So the record is accepted, and there is one set of options that it can stand for.
  rcases ProviderOptions.layout_describes.lenient.accepts record h.spelled honce hvalue with
    ⟨found, hdecode, hunique⟩
  rw [ProviderOptions.ofJson_eq_ok, hdecode, (hunique options).mp hholds]

end Records

/-- Options are gathered from a lookup if every text that is set trims to a word
    of its axis, and then each preference is what its own name is set to. Else
    the first name at fault is reported, and none behind it was asked for. A
    record that gives the same texts stands for the same options. -/
theorem ProviderOptions.ofLookup_gathers (lookup : Lookup) :
    ((∃ options, (ofLookup lookup).1 = .ok options) ↔
      ∀ v ∈ lookedUp, ∀ raw, lookup v.name = some raw → Text.trimmed raw ∈ v.words) ∧
    (∀ options, (ofLookup lookup).1 = .ok options ↔
      lookup.Sets themeName options.theme ∧ lookup.Sets densityName options.density ∧
        lookup.Sets radiusName options.radius) ∧
    (∀ fault, (ofLookup lookup).1 = .error fault ↔
      lookedUp.findSome? (Variable.fault? lookup) = some fault) ∧
    (ofLookup lookup).2 <+: [themeName, densityName, radiusName] ∧
    (ofLookup lookup).2.Nodup ∧
    (∀ before v after, lookedUp = before ++ v :: after →
      (v.name ∈ (ofLookup lookup).2 ↔ ∀ w ∈ before, w.fault? lookup = none)) ∧
    ∀ options, (ofLookup lookup).1 = .ok options →
      lookup.GivenBy lookup.record ∧
        ∀ record, lookup.GivenBy record → ofJson record.text = .ok options := by
  rcases ofLookup_faults lookup with ⟨hreport, hasked⟩
  have hexists := exists_ofLookup lookup
  have hprefix := Variable.asked_prefix lookup lookedUp
  refine ⟨?_, fun _ => ofLookup_eq_ok, hreport, hasked ▸ hprefix,
    hasked ▸ hprefix.sublist.nodup nodup_lookedUp, ?_,
    fun options hok => ⟨givenBy_record (hexists.mp ⟨options, hok⟩), fun _ h => h.ofJson hok⟩⟩
  · simpa only [Variable.fault?_eq_none] using hexists
  · intro before v after hsplit
    rw [hasked, hsplit]
    exact Variable.mem_asked (hsplit ▸ nodup_lookedUp)

/-- A lookup with blanks around one text, and none under the second name. -/
def paddedLookup : Lookup := fun name =>
  if name = ProviderOptions.themeName then some "\u00a0dark\n"
  else if name = ProviderOptions.radiusName then some "none"
  else none

/-- The texts of that lookup in another order, one with an escape in it. -/
def paddedRecord : RecordText where
  before := .none
  opening := .none
  entries :=
    [plainEntry "defaultRadius" (.quoted (plainly "none")),
     plainEntry "defaultTheme" (.quoted (escapedD :: plainly "ark"))]
  after := .none

theorem ProviderOptions.ofLookup_gathers_padded :
    (ofLookup paddedLookup).1 = .ok { theme := some .dark, radius := some .none } ∧
      paddedRecord.text =
        "\x7b\"defaultRadius\":\"none\",\"defaultTheme\":\"\\u0064ark\"\x7d" ∧
      ofJson paddedRecord.text = .ok { theme := some .dark, radius := some .none } ∧
      (ofLookup fun _ => some "light ").1 = .error (.invalidPreference "density" "light") ∧
      radiusName ∉ (ofLookup fun _ => some "light ").2 := by
  have hok : (ofLookup paddedLookup).1 = .ok { theme := some .dark, radius := some .none } :=
    ((ofLookup_gathers paddedLookup).2.1 _).mpr ⟨rfl, rfl, rfl⟩
  have hgiven : paddedLookup.GivenBy paddedRecord := by
    refine ⟨by decide, ?_⟩
    simp only [lookedUp, List.forall_mem_cons]
    exact ⟨⟨_, rfl, _, rfl, rfl⟩, rfl, ⟨_, rfl, _, rfl, rfl⟩, List.forall_mem_nil _⟩
  -- The second of the three names is the first at fault.
  have hlight := ofLookup_gathers fun _ => some "light "
  have hradius := hlight.2.2.2.2.2.1 [.of themeName "defaultTheme" Theme,
    .of densityName "defaultDensity" Density] (.of radiusName "defaultRadius" Radius) [] rfl
  refine ⟨hok, rfl, ((ofLookup_gathers paddedLookup).2.2.2.2.2.2 _ hok).2 _ hgiven,
    (hlight.2.2.1 _).mpr rfl, ?_⟩
  intro hasked
  have hnone := hradius.mp hasked _ (List.mem_cons_of_mem _ List.mem_cons_self)
  exact absurd hnone (by decide)

end DashKit
