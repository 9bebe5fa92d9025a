import Mathlib.Data.List.Nodup
import DashKit.Codec.Basic
import DashKit.Proofs.Codec.Filling

/-!
# Settings and the Entries That Set Them

Types that are nothing but their settings, and what the entries of a record
make of them.

Other programs send keys of their own, in an order of their own. None of that
may change a setting, and nothing that is not the value of a setting may
become one. So a record is followed entry by entry. An entry either sets the
slot that its key names or does nothing at all, and the slots do not touch
each other.

Two things follow by induction on the entries. If they can all be read, every
slot holds what the only entry under its name stands for, or what it held
before if there is none. And they can be read if no slot is named twice and
the values under the names can be read.

## Main definitions

* `under`, `GivesText`: The values under a name, and the only one if it is a
  text.
* `Slot`, `Layout`: The settings of a type, by their names.
* `Layout.step`: What an entry does to the settings.

## Theorems

* `step_cases`: An entry does nothing or sets one slot.
* `filled_cons`: So it fills each slot, or leaves it to the entries behind it.
* `filled_of_run`: What all the entries do, if they can be read.
* `run_isSome`: When they can be read.
-/

namespace DashKit

namespace Json

variable {α : Type}

/-! ### Entries by their names -/

/-- The name that the key of an entry spells. -/
def Entry.name? (entry : Entry Form) : Option String :=
  (spelling? entry.key).map String.ofList

theorem Entry.name?_ne_none {entry : Entry Form} :
    entry.name? ≠ none ↔ spelling? entry.key ≠ none := by
  rw [Entry.name?, ne_eq, Option.map_eq_none_iff]

/-- The values under a name, in the order in which they stand. -/
def under (name : String) (entries : List (Entry Form)) : List Form :=
  (entries.filter fun entry => entry.name? == some name).map Entry.value

/-- There is one value under a name, and it is a string that spells the text. -/
def GivesText (entries : List (Entry Form)) (name text : String) : Prop :=
  ∃ form, under name entries = [form] ∧ form.Spells text

theorem under_cons_of_eq {name : String} {entry : Entry Form} (h : entry.name? = some name)
    (entries : List (Entry Form)) :
    under name (entry :: entries) = entry.value :: under name entries := by
  have hkept : (entry.name? == some name) = true := beq_iff_eq.mpr h
  simp only [under, List.filter_cons, hkept, if_true, List.map_cons]

theorem under_cons_of_ne {name : String} {entry : Entry Form} (h : entry.name? ≠ some name)
    (entries : List (Entry Form)) : under name (entry :: entries) = under name entries := by
  have hdropped : (entry.name? == some name) = false := beq_eq_false_iff_ne.mpr h
  simp only [under, List.filter_cons, hdropped, Bool.false_eq_true, if_false]

theorem mem_under_cons {name : String} {entry : Entry Form} {entries : List (Entry Form)}
    {form : Form} (h : form ∈ under name entries) : form ∈ under name (entry :: entries) :=
  (((List.sublist_cons_self entry entries).filter _).map Entry.value).mem h

/-! ### Slots -/

/-- A setting of a type: its name, the type of its values and their codec, and
    how it is looked up and changed. -/
structure Slot (α : Type) where
  name : String
  Kind : Type
  codec : Codec Kind
  get : α → Kind
  set : Kind → α → α
  get_set : ∀ v a, get (set v a) = v

namespace Slot

variable (slot : Slot α)

instance : Codec slot.Kind := slot.codec

/-- The field of a record under which the setting is sent. -/
def field (depth : Nat) : Field α :=
  .of depth slot.name slot.set

/-- A form stands for a value of the setting as a text of its own. -/
def Decodes (form : Form) (v : slot.Kind) : Prop :=
  decode slot.Kind (String.ofList form.text) = .ok v

/-- The value of the setting that is found in a form. -/
def value? (depth : Nat) (form : Form) : Option slot.Kind :=
  (Codec.reader depth : Reader slot.Kind).value? form.text

end Slot

/-- The settings that a type consists of. -/
structure Layout (α : Type) where
  slots : List (Slot α)
  distinct : (slots.map Slot.name).Nodup
  /-- Changing a setting leaves the others alone. -/
  apart : ∀ slot ∈ slots, ∀ other ∈ slots, slot.name ≠ other.name →
    ∀ v a, slot.get (other.set v a) = slot.get a
  /-- There is nothing but the settings. -/
  whole : ∀ a b, (∀ slot ∈ slots, slot.get a = slot.get b) → a = b

namespace Layout

variable (layout : Layout α) (depth : Nat)

/-- The fields of a record of all the settings. -/
def fields : List (Field α) :=
  layout.slots.map fun slot => slot.field depth

/-- What an entry does to the settings. -/
def step : Progress α → Entry Form → Option (Progress α) :=
  fill (pickField (layout.fields depth))

variable {layout depth}

theorem slot_eq_of_name {slot other : Slot α} (hslot : slot ∈ layout.slots)
    (hother : other ∈ layout.slots) (h : slot.name = other.name) : slot = other :=
  List.inj_on_of_nodup_map layout.distinct hslot hother h

theorem nodup_fields (layout : Layout α) (depth : Nat) :
    ((layout.fields depth).map Field.name).Nodup := by
  rw [fields, List.map_map]
  exact layout.distinct

theorem step_unspelled {p : Progress α} {entry : Entry Form} (h : entry.name? = none) :
    layout.step depth p entry = none := by
  rw [step, fill, Option.map_eq_none_iff.mp h, Option.bind_none]

/-- An entry under another name does nothing. -/
theorem step_other {p : Progress α} {entry : Entry Form} {name : String}
    (hname : entry.name? = some name) (h : ∀ slot ∈ layout.slots, slot.name ≠ name) :
    layout.step depth p entry = some p := by
  rcases Option.map_eq_some_iff.mp hname with ⟨key, hkey, hof⟩
  -- No field has the name, so the entry is passed over, which any value allows.
  have hnone : (layout.fields depth).find? (fun field => field.name == name) = none := by
    rw [List.find?_eq_none]
    intro field hfield hbeq
    rcases List.mem_map.mp hfield with ⟨slot, hslot, rfl⟩
    exact h slot hslot (beq_iff_eq.mp hbeq)
  have hpassed : Reader.anything.value? entry.value.text = some () := by
    have hrun := run_anything .none entry.value endsNumber_nil
    rw [List.append_nil] at hrun
    exact value?_of_finds (Finds.some_iff.mpr hrun)
  rw [step, fill, hkey, Option.bind_some, hof]
  simp only [pickField, hnone, Except.toOption, Option.bind_some, value?_map, hpassed,
    Option.map_some]

/-- An entry under the name of a setting changes it, if none did before. -/
theorem step_slot {slot : Slot α} (hslot : slot ∈ layout.slots) {entry : Entry Form}
    (hname : entry.name? = some slot.name) (p : Progress α) :
    layout.step depth p entry =
      if slot.name ∈ p.seen then none
      else (slot.value? depth entry.value).map fun v =>
        ⟨slot.name :: p.seen, slot.set v p.draft⟩ := by
  rcases Option.map_eq_some_iff.mp hname with ⟨key, hkey, hof⟩
  -- Names are distinct, so the field that is found is the one of the setting.
  have hfind := find?_name (layout.nodup_fields depth) (List.mem_map_of_mem hslot)
  rw [step, fill, hkey, Option.bind_some, hof, pickField]
  rw [show (slot.field depth).name = slot.name from rfl] at hfind
  simp only [hfind]
  split
  · rfl
  · simp only [Except.toOption, Option.bind_some, value?_map, Slot.field, Field.of,
      Option.map_map]
    rfl

/-- An entry that can be read either does nothing or sets the one slot that it
    names. -/
theorem step_cases {p q : Progress α} {entry : Entry Form}
    (h : layout.step depth p entry = some q) :
    (q = p ∧ ∀ slot ∈ layout.slots, entry.name? ≠ some slot.name) ∨
    ∃ slot ∈ layout.slots, entry.name? = some slot.name ∧ slot.name ∉ p.seen ∧
      ∃ v, slot.value? depth entry.value = some v ∧
        q = ⟨slot.name :: p.seen, slot.set v p.draft⟩ := by
  -- Either some setting has the name, and there is one, or the entry does nothing.
  by_cases hnamed : ∃ slot ∈ layout.slots, entry.name? = some slot.name
  · rcases hnamed with ⟨slot, hslot, hname⟩
    rw [step_slot hslot hname] at h
    split at h
    · simp only [reduceCtorEq] at h
    · next hseen =>
        rcases Option.map_eq_some_iff.mp h with ⟨v, hv, rfl⟩
        exact .inr ⟨slot, hslot, hname, hseen, v, hv, rfl⟩
  · have hother : ∀ slot ∈ layout.slots, entry.name? ≠ some slot.name :=
      fun slot hslot hname => hnamed ⟨slot, hslot, hname⟩
    cases hname : entry.name? with
    | none =>
        rw [step_unspelled hname] at h
        simp only [reduceCtorEq] at h
    | some name =>
        have hsame : layout.step depth p entry = some p :=
          step_other hname fun slot hslot heq => hother slot hslot (heq ▸ hname)
        rw [hsame, Option.some.injEq] at h
        exact .inl ⟨h.symm, hname ▸ hother⟩

/-- All the entries after one another. -/
theorem run_cons (p : Progress α) (entry : Entry Form) (entries : List (Entry Form)) :
    (entry :: entries).foldlM (layout.step depth) p =
      (layout.step depth p entry).bind fun q => entries.foldlM (layout.step depth) q :=
  List.foldlM_cons

end Layout

/-! ### Runs -/

/-- Entries name a slot at most once, and not at all if it was named before. -/
structure Slot.Once (slot : Slot α) (seen : List String) (entries : List (Entry Form)) : Prop where
  fresh : slot.name ∈ seen → under slot.name entries = []
  single : (under slot.name entries).length ≤ 1

theorem Slot.Once.of_length {slot : Slot α} {entries : List (Entry Form)}
    (h : (under slot.name entries).length ≤ 1) : slot.Once [] entries :=
  ⟨fun hmem => absurd hmem List.not_mem_nil, h⟩

/-- What entries make of a slot. -/
structure Slot.Filled (slot : Slot α) (depth : Nat) (entries : List (Entry Form))
    (p q : Progress α) : Prop where
  once : slot.Once p.seen entries
  kept : under slot.name entries = [] → slot.get q.draft = slot.get p.draft
  found : ∀ form ∈ under slot.name entries, slot.value? depth form = some (slot.get q.draft)

/-- The later entries name the slot at most once too, whether or not the first
    one names it. -/
theorem Slot.Once.of_cons {slot : Slot α} {seen seen' : List String} {entry : Entry Form}
    {entries : List (Entry Form)} (h : slot.Once seen (entry :: entries))
    (hseen : ∀ name ∈ seen', name ∈ seen ∨ entry.name? = some name) : slot.Once seen' entries := by
  by_cases hname : entry.name? = some slot.name
  · have hsingle := h.single
    rw [under_cons_of_eq hname, List.length_cons] at hsingle
    -- The first entry is the one that names the slot, so there is no other.
    have hnone : under slot.name entries = [] := List.eq_nil_of_length_eq_zero (by omega)
    exact ⟨fun _ => hnone, by rw [hnone]; exact Nat.zero_le 1⟩
  · have hunder := under_cons_of_ne hname entries
    refine ⟨?_, hunder ▸ h.single⟩
    intro hslot
    rw [← hunder]
    exact h.fresh ((hseen slot.name hslot).resolve_right hname)

namespace Layout

variable {layout : Layout α} {depth : Nat}

/-- An entry in front of others that fill a slot fills it with them: with its
    own value if it names the slot, and else with theirs. -/
theorem filled_cons {entry : Entry Form} {entries : List (Entry Form)} {p p' q : Progress α}
    (hstep : layout.step depth p entry = some p') {slot : Slot α} (hslot : slot ∈ layout.slots)
    (hrest : slot.Filled depth entries p' q) : slot.Filled depth (entry :: entries) p q := by
  rcases step_cases hstep with ⟨rfl, hother⟩ | ⟨other, hother, hname, hseen, v, hv, rfl⟩
  -- No slot is named.
  · have hunder := under_cons_of_ne (hother slot hslot) entries
    exact ⟨⟨hunder ▸ hrest.once.fresh, hunder ▸ hrest.once.single⟩, hunder ▸ hrest.kept,
      hunder ▸ hrest.found⟩
  by_cases hsame : slot.name = other.name
  -- The slot is named, so nothing later names it.
  · obtain rfl := slot_eq_of_name hslot hother hsame
    have hnone : under slot.name entries = [] := hrest.once.fresh List.mem_cons_self
    have hunder := under_cons_of_eq hname entries
    rw [hnone] at hunder
    have hget : slot.get q.draft = v := (hrest.kept hnone).trans (slot.get_set v p.draft)
    refine ⟨⟨fun hp => absurd hp hseen, by rw [hunder, List.length_singleton]⟩, ?_, ?_⟩
    · intro hempty
      rw [hunder] at hempty
      exact absurd hempty (List.cons_ne_nil _ _)
    · intro form hform
      rw [hunder, List.mem_singleton] at hform
      rw [hform, hv, hget]
  -- Another slot is named.
  · have hne : entry.name? ≠ some slot.name := by
      rw [hname, ne_eq, Option.some.injEq]
      exact fun heq => hsame heq.symm
    have hunder := under_cons_of_ne hne entries
    have hget : slot.get (other.set v p.draft) = slot.get p.draft :=
      layout.apart slot hslot other hother hsame v p.draft
    refine ⟨⟨?_, hunder ▸ hrest.once.single⟩, ?_, hunder ▸ hrest.found⟩
    · intro hp
      rw [hunder]
      exact hrest.once.fresh (List.mem_cons_of_mem _ hp)
    · intro hempty
      rw [hunder] at hempty
      exact (hrest.kept hempty).trans hget

/-- If all the entries can be read, each slot holds the value under its name,
    or what it held before. -/
theorem filled_of_run {entries : List (Entry Form)} {p q : Progress α}
    (h : entries.foldlM (layout.step depth) p = some q) {slot : Slot α}
    (hslot : slot ∈ layout.slots) : slot.Filled depth entries p q := by
  induction entries generalizing p with
  | nil =>
      rw [List.foldlM_nil] at h
      -- Without entries the draft is what it was, and no value is asked for.
      have hpq : p = q := Option.some.inj h
      exact ⟨⟨fun _ => rfl, Nat.zero_le 1⟩, fun _ => by rw [hpq],
        fun form hform => absurd hform List.not_mem_nil⟩
  | cons entry entries ih =>
      rw [run_cons] at h
      rcases Option.bind_eq_some_iff.mp h with ⟨p', hstep, hrun⟩
      exact filled_cons hstep hslot (ih hrun)

/-- All the entries can be read if their keys spell something, if no slot is
    named twice, and if the values under the names can be read. -/
theorem run_isSome {entries : List (Entry Form)} {p : Progress α}
    (hspelled : ∀ entry ∈ entries, entry.name? ≠ none)
    (honce : ∀ slot ∈ layout.slots, slot.Once p.seen entries)
    (hfound : ∀ slot ∈ layout.slots, ∀ form ∈ under slot.name entries,
      ∃ v, slot.value? depth form = some v) :
    ∃ q, entries.foldlM (layout.step depth) p = some q := by
  induction entries generalizing p with
  | nil => exact ⟨p, rfl⟩
  | cons entry entries ih =>
      have hrest : ∀ other ∈ entries, other.name? ≠ none :=
        fun other hother => hspelled other (List.mem_cons_of_mem entry hother)
      have hlater : ∀ slot ∈ layout.slots, ∀ form ∈ under slot.name entries,
          ∃ v, slot.value? depth form = some v :=
        fun slot hslot form hform => hfound slot hslot form (mem_under_cons hform)
      rw [run_cons]
      by_cases hnamed : ∃ slot ∈ layout.slots, entry.name? = some slot.name
      · rcases hnamed with ⟨slot, hslot, hname⟩
        have hunder := under_cons_of_eq hname entries
        -- The slot has not been named before, as this entry names it.
        have hseen : slot.name ∉ p.seen := fun hp =>
          List.cons_ne_nil _ _ (hunder ▸ (honce slot hslot).fresh hp)
        rcases hfound slot hslot entry.value (hunder ▸ List.mem_cons_self) with ⟨v, hv⟩
        rw [step_slot hslot hname, if_neg hseen, hv, Option.map_some, Option.bind_some]
        refine ih hrest (fun other hother => (honce other hother).of_cons ?_) hlater
        intro name hmem
        rcases List.mem_cons.mp hmem with rfl | hmem
        · exact .inr hname
        · exact .inl hmem
      · rcases Option.ne_none_iff_exists'.mp (hspelled entry List.mem_cons_self) with
          ⟨name, hname⟩
        have hother : ∀ slot ∈ layout.slots, slot.name ≠ name :=
          fun slot hslot heq => hnamed ⟨slot, hslot, heq ▸ hname⟩
        rw [step_other hname hother, Option.bind_some]
        exact ih hrest (fun slot hslot => (honce slot hslot).of_cons fun _ => .inl) hlater

end Layout

end Json

end DashKit
