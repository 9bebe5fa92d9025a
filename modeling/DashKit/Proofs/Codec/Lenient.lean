import DashKit.Codec.Options
import DashKit.Proofs.Codec.Layout

/-!
# Options However They Are Sent

What a caller may send as options, and what becomes of it.

A caller may leave out what it does not care about and may send more than is
asked for: the record of one program is often read by another that knows only
some of its keys. `Lenient` says what is owed to such a caller. The record
stands for the one value that has the settings it gives and the defaults of
the others, unless a setting is given twice or given something it cannot be.

Whether a setting can be something is asked of the text of the value alone.
For a width the answer is spelled out, because a number that does not fit
would be the easiest thing to take for another one.

## Main definitions

* `RecordText`: A record as a text of its own.
* `Lenient`: A type whose values can be sent in any such record.
* `Layout.Describes`: The settings of a type are the fields that it is read
  from.

## Theorems

* `lenient`: A type that is read from its settings is lenient.
* `decode_word32`: Which forms are numbers of thirty-two bits.
* `options_lenient`: The options of both providers are lenient.
-/

namespace DashKit

namespace Json

variable {α β : Type}

/-! ### Forms as whole texts -/

/-- The value that a form stands for is the one found in it, whatever blanks
    there are around it. -/
theorem decode_form [Codec β] (h : Settled (Codec.reader maxDepth : Reader β)) (before after : Gap)
    (form : Form) (b : β) :
    decode β (String.ofList (before.chars ++ (form.text ++ after.chars))) = .ok b ↔
      (Codec.reader maxDepth : Reader β).value? form.text = some b := by
  have hends := endsNumber_gap after endsNumber_nil
  rw [List.append_nil] at hends
  have htext : (String.ofList (before.chars ++ (form.text ++ after.chars))).toList =
      before.chars ++ (form.text ++ after.chars) := String.toList_ofList
  rw [decode_eq_ok, htext]
  -- Nothing may be left behind the value, and nothing is but blanks.
  rcases (h.finds_gap before form hends).split with ⟨hnone, e, he⟩ | ⟨a, hsome, ha⟩
  · simp only [he, hnone, reduceCtorEq, false_and, exists_false]
  · simp only [ha, hsome, Except.ok.injEq, Prod.mk.injEq, Option.some.injEq]
    constructor
    · rintro ⟨_, ⟨hb, _⟩, _⟩
      exact hb
    · rintro rfl
      exact ⟨after.chars, ⟨rfl, rfl⟩, afterGap_eq_nil.mpr after.blank⟩

theorem decode_form_alone [Codec β] (h : Settled (Codec.reader maxDepth : Reader β)) (form : Form)
    (b : β) :
    decode β (String.ofList form.text) = .ok b ↔
      (Codec.reader maxDepth : Reader β).value? form.text = some b := by
  have halone := decode_form h .none .none form b
  rwa [show form.text ++ Gap.none.chars = form.text from List.append_nil _] at halone

/-! ### Records as whole texts -/

/-- A record as a text of its own: its entries and the blanks around them. -/
structure RecordText where
  before : Gap
  opening : Gap
  entries : List (Entry Form)
  after : Gap

/-- The text of a record. -/
def RecordText.text (record : RecordText) : String :=
  String.ofList (record.before.chars ++
    ((Form.record record.opening record.entries).text ++ record.after.chars))

/-- The values that a record has under a name. -/
def RecordText.under (record : RecordText) (name : String) : List Form :=
  Json.under name record.entries

/-- A record is decoded as what its entries make of the shape. -/
theorem decode_record {σ : Type} [Codec α] {shape : Shape σ α}
    (hreader : (Codec.reader maxDepth : Reader α) = .shape maxDepth shape)
    (hfields : ∀ depth, ∀ field ∈ shape.fields depth, Settled field.reader)
    (record : RecordText) (a : α) :
    decode α record.text = .ok a ↔ named? shape (maxDepth - 1) record.entries = some a := by
  have hsettled : Settled (Codec.reader maxDepth : Reader α) := by
    rw [hreader]
    exact settled_shape hfields
  have hvalue : (Codec.reader maxDepth : Reader α).value?
      (Form.record record.opening record.entries).text =
        named? shape (maxDepth - 1) record.entries := by
    rw [hreader]
    exact value?_of_finds_append fun t _ =>
      finds_shape_record (hfields (maxDepth - 1)) record.opening record.entries t
  rw [RecordText.text, decode_form hsettled, hvalue]

/-- A value has at a slot what a record gives it: what is under its name, or
    what it has by default. -/
structure Slot.Holds [Inhabited α] (slot : Slot α) (record : RecordText) (a : α) : Prop where
  given : ∀ form ∈ record.under slot.name, slot.Decodes form (slot.get a)
  default : record.under slot.name = [] → slot.get a = slot.get default

/-- Two values that hold the same are the same. -/
theorem Layout.holds_unique [Inhabited α] {layout : Layout α} {record : RecordText} {a b : α}
    (ha : ∀ slot ∈ layout.slots, slot.Holds record a)
    (hb : ∀ slot ∈ layout.slots, slot.Holds record b) : a = b := by
  refine layout.whole a b ?_
  intro slot hslot
  -- A slot is given a value or it is not, and both values go by that.
  cases hunder : record.under slot.name with
  | nil => exact ((ha slot hslot).default hunder).trans ((hb slot hslot).default hunder).symm
  | cons form forms =>
      have hform : form ∈ record.under slot.name := hunder ▸ List.mem_cons_self
      exact Except.ok.inj (((ha slot hslot).given form hform).symm.trans
        ((hb slot hslot).given form hform))

/-- A type whose values can be sent in any record that names each setting at
    most once, with a value that stands for one by itself. -/
structure Lenient (α : Type) [Codec α] [Inhabited α] (layout : Layout α) : Prop where
  /-- Such a record stands for the one value that holds what it gives. -/
  accepts : ∀ record : RecordText, (∀ entry ∈ record.entries, spelling? entry.key ≠ none) →
    (∀ slot ∈ layout.slots, (record.under slot.name).length ≤ 1) →
    (∀ slot ∈ layout.slots, ∀ form ∈ record.under slot.name, ∃ v, slot.Decodes form v) →
    ∃ a, decode α record.text = .ok a ∧
      ∀ b, (∀ slot ∈ layout.slots, slot.Holds record b) ↔ b = a
  /-- A record that names a setting twice is refused. -/
  refuses_repeated : ∀ record : RecordText,
    (∃ slot ∈ layout.slots, 1 < (record.under slot.name).length) →
    ∃ refusal, decode α record.text = .error refusal
  /-- So is one with a value that stands for none. -/
  refuses_value : ∀ record : RecordText,
    (∃ slot ∈ layout.slots, ∃ form ∈ record.under slot.name, ∀ v, ¬slot.Decodes form v) →
    ∃ refusal, decode α record.text = .error refusal

/-- A type is read as a record of its settings, each of which is read the same
    wherever it stands. -/
structure Layout.Describes [Codec α] [Inhabited α] (layout : Layout α) (shape : Shape α α) :
    Prop where
  reader : (Codec.reader maxDepth : Reader α) = .shape maxDepth shape
  fields : ∀ depth, shape.fields depth = layout.fields depth
  blank : shape.blank = default
  finish : shape.finish = .ok
  settled : ∀ depth, ∀ slot ∈ layout.slots, Settled (Codec.reader depth : Reader slot.Kind)
  /-- It does not matter that the bracket of the record is open. -/
  shallow : ∀ slot ∈ layout.slots,
    (Codec.reader (maxDepth - 1) : Reader slot.Kind) = Codec.reader maxDepth

namespace Layout.Describes

variable [Codec α] [Inhabited α] {layout : Layout α} {shape : Shape α α}

theorem decodes (h : layout.Describes shape) {slot : Slot α} (hslot : slot ∈ layout.slots)
    (form : Form) (v : slot.Kind) :
    slot.Decodes form v ↔ slot.value? (maxDepth - 1) form = some v := by
  -- Inside the record one bracket is open, which no setting notices.
  rw [Slot.value?, h.shallow slot hslot]
  exact decode_form_alone (h.settled maxDepth slot hslot) form v

theorem settled_fields (h : layout.Describes shape) (depth : Nat) :
    ∀ field ∈ shape.fields depth, Settled field.reader := by
  intro field hfield
  rw [h.fields] at hfield
  rcases List.mem_map.mp hfield with ⟨slot, hslot, rfl⟩
  exact (h.settled depth slot hslot).map slot.set

/-- A record is read entry by entry, from the default on. -/
theorem decode_eq_ok_iff (h : layout.Describes shape) (record : RecordText) (a : α) :
    decode α record.text = .ok a ↔ ∃ q : Progress α,
      record.entries.foldlM (layout.step (maxDepth - 1)) ⟨[], default⟩ = some q ∧
        q.draft = a := by
  rw [decode_record h.reader h.settled_fields, named?, h.fields, h.blank, h.finish]
  simp only [Option.bind_eq_some_iff, Except.toOption, Option.some.injEq]
  rfl

/-- Each slot of what a record stands for holds what the record gives it. -/
theorem holds_of_decode (h : layout.Describes shape) {record : RecordText} {a : α}
    (hdecode : decode α record.text = .ok a) {slot : Slot α} (hslot : slot ∈ layout.slots) :
    (record.under slot.name).length ≤ 1 ∧ slot.Holds record a := by
  rcases (h.decode_eq_ok_iff record a).mp hdecode with ⟨q, hrun, rfl⟩
  -- The run went through every entry, so it found what is under the name.
  have hfilled := Layout.filled_of_run hrun hslot
  refine ⟨hfilled.once.single, ?_, hfilled.kept⟩
  intro form hform
  exact (h.decodes hslot form _).mpr (hfilled.found form hform)

/-- A record that gives each slot a value at most once can be read. -/
theorem exists_decode (h : layout.Describes shape) {record : RecordText}
    (hspelled : ∀ entry ∈ record.entries, spelling? entry.key ≠ none)
    (honce : ∀ slot ∈ layout.slots, (record.under slot.name).length ≤ 1)
    (hvalue : ∀ slot ∈ layout.slots, ∀ form ∈ record.under slot.name,
      ∃ v, slot.Decodes form v) :
    ∃ a, decode α record.text = .ok a := by
  have hnamed : ∀ entry ∈ record.entries, entry.name? ≠ none :=
    fun entry hentry => Entry.name?_ne_none.mpr (hspelled entry hentry)
  have hfound : ∀ slot ∈ layout.slots, ∀ form ∈ record.under slot.name,
      ∃ v, slot.value? (maxDepth - 1) form = some v := by
    intro slot hslot form hform
    rcases hvalue slot hslot form hform with ⟨v, hv⟩
    exact ⟨v, (h.decodes hslot form v).mp hv⟩
  -- No name was seen before the first entry.
  have hfresh : ∀ slot ∈ layout.slots, slot.Once [] record.entries :=
    fun slot hslot => .of_length (honce slot hslot)
  rcases Layout.run_isSome (p := ⟨[], default⟩) hnamed hfresh hfound with ⟨q, hq⟩
  exact ⟨q.draft, (h.decode_eq_ok_iff record q.draft).mpr ⟨q, hq, rfl⟩⟩

theorem lenient (h : layout.Describes shape) : Lenient α layout where
  accepts record hspelled honce hvalue := by
    rcases h.exists_decode hspelled honce hvalue with ⟨a, ha⟩
    have hholds : ∀ slot ∈ layout.slots, slot.Holds record a :=
      fun slot hslot => (h.holds_of_decode ha hslot).2
    -- What the record stands for holds what it gives, and nothing else does.
    refine ⟨a, ha, fun b => ⟨fun hb => Layout.holds_unique hb hholds, ?_⟩⟩
    rintro rfl
    exact hholds
  refuses_repeated record := by
    rintro ⟨slot, hslot, htwice⟩
    -- Had it been read, each setting would have been there at most once.
    refine decode_eq_error ?_
    intro a ha
    exact Nat.not_lt.mpr (h.holds_of_decode ha hslot).1 htwice
  refuses_value record := by
    rintro ⟨slot, hslot, form, hform, hrefused⟩
    refine decode_eq_error ?_
    intro a ha
    exact hrefused _ ((h.holds_of_decode ha hslot).2.given form hform)

end Layout.Describes

/-! ### Numbers -/

/-- A numeral that is a number of thirty-two bits is that number and no
    other. -/
theorem word?_eq_some {numeral : Numeral} {n : UInt32} :
    word? numeral = some n ↔ numeral = .natural n.toNat := by
  cases numeral with
  | natural m =>
      simp only [word?, Option.ite_none_right_eq_some, Option.some.injEq, Numeral.natural.injEq]
      constructor
      -- Below the bound the number is the same in thirty-two bits.
      · rintro ⟨hlt, rfl⟩
        exact (UInt32.toNat_ofNat_of_lt' hlt).symm
      · rintro rfl
        exact ⟨n.toNat_lt_size, UInt32.ofNat_toNat⟩
  | negative m => simp only [word?, reduceCtorEq]
  | real x => simp only [word?, reduceCtorEq]

/-- A form stands for a number of thirty-two bits if it is just that number,
    written in digits. -/
theorem decode_word32 (form : Form) (n : UInt32) :
    decode UInt32 (String.ofList form.text) = .ok n ↔
      ∃ token, form = .number token ∧ token.Spells n.toNat := by
  refine (decode_form_alone settled_word32 form n).trans ?_
  -- Only a number can be one, and then its literal decides.
  by_cases hform : ∃ token, form = .number token
  · rcases hform with ⟨token, rfl⟩
    have hfinds := finds_word32 token endsNumber_nil
    rw [List.append_nil] at hfinds
    have hvalue : (Codec.reader maxDepth : Reader UInt32).value? (Form.number token).text =
        (token.literal.value []).toOption.bind word? := value?_of_finds hfinds
    have hnatural : (token.literal.value []).toOption.bind word? = some n ↔
        token.literal.value [] = .ok (.natural n.toNat) := by
      cases token.literal.value [] with
      | error e => simp only [Except.toOption, Option.bind_none, reduceCtorEq]
      | ok numeral =>
          simp only [Except.toOption, Option.bind_some, word?_eq_some, Except.ok.injEq]
    -- A natural number is kept up to sixty-four bits, so these are.
    have hlt : n.toNat < UInt64.size := Nat.lt_trans n.toNat_lt_size (by decide)
    rw [hvalue, hnatural, NumberForm.value_eq_natural]
    simp only [hlt, and_true, Form.number.injEq, exists_eq_left']
  · have hother : ∀ token, form ≠ .number token := fun token htoken => hform ⟨token, htoken⟩
    have hfinds := finds_word32_none hother []
    rw [List.append_nil] at hfinds
    have hvalue : (Codec.reader maxDepth : Reader UInt32).value? form.text = none :=
      value?_of_finds hfinds
    rw [hvalue]
    constructor
    · intro h
      exact absurd h (Option.some_ne_none n).symm
    · rintro ⟨token, htoken, _⟩
      exact absurd htoken (hother token)

end Json

/-! ### Options -/

open Json

/-- What a provider can be sent. -/
def ProviderOptions.layout : Layout ProviderOptions where
  slots :=
    [{ name := "defaultTheme", Kind := Option Theme, codec := inferInstance
       get := theme, set v options := { options with theme := v }, get_set _ _ := rfl },
     { name := "defaultDensity", Kind := Option Density, codec := inferInstance
       get := density, set v options := { options with density := v }, get_set _ _ := rfl },
     { name := "defaultRadius", Kind := Option Radius, codec := inferInstance
       get := radius, set v options := { options with radius := v }, get_set _ _ := rfl }]
  distinct := by decide
  apart := by simp
  whole a b h := by
    simp only [List.forall_mem_cons] at h
    rcases a with ⟨theme, density, radius⟩
    rcases h with ⟨rfl, rfl, rfl, _⟩
    rfl

/-- What a sidebar can be sent. -/
def SidebarOptions.layout : Layout SidebarOptions where
  slots :=
    [{ name := "defaultOpen", Kind := Bool, codec := inferInstance
       get := startsOpen, set v options := { options with startsOpen := v }
       get_set _ _ := rfl },
     { name := "mobileBreakpointPx", Kind := UInt32, codec := inferInstance
       get := breakpoint, set v options := { options with breakpoint := v }
       get_set _ _ := rfl },
     { name := "shortcut", Kind := Shortcut, codec := inferInstance
       get := shortcut, set v options := { options with shortcut := v }
       get_set _ _ := rfl },
     { name := "shortcutEnabled", Kind := Bool, codec := inferInstance
       get := shortcutEnabled, set v options := { options with shortcutEnabled := v }
       get_set _ _ := rfl }]
  distinct := by decide
  apart := by simp
  whole a b h := by
    simp only [List.forall_mem_cons] at h
    rcases a with ⟨startsOpen, breakpoint, shortcut, shortcutEnabled⟩
    rcases h with ⟨rfl, rfl, rfl, rfl, _⟩
    rfl

theorem settled_axis (α : Type) [Axis α] (depth : Nat) :
    Settled (Axis.codec.reader depth : Reader α) :=
  settled_member depth _

theorem settled_shortcut (depth : Nat) : Settled (Codec.reader depth : Reader Shortcut) :=
  settled_shape fun _ => List.forall_mem_singleton.mpr (settled_char.map _)

theorem ProviderOptions.layout_describes : ProviderOptions.layout.Describes providerShape where
  reader := rfl
  fields _ := rfl
  blank := rfl
  finish := rfl
  settled depth := by
    simp only [layout, List.forall_mem_cons]
    exact ⟨settled_optional (settled_axis Theme depth),
      settled_optional (settled_axis Density depth), settled_optional (settled_axis Radius depth),
      List.forall_mem_nil _⟩
  shallow := by
    simp only [layout, List.forall_mem_cons]
    exact ⟨rfl, rfl, rfl, List.forall_mem_nil _⟩

theorem SidebarOptions.layout_describes : SidebarOptions.layout.Describes sidebarShape where
  reader := rfl
  fields _ := rfl
  blank := rfl
  finish := rfl
  settled depth := by
    simp only [layout, List.forall_mem_cons]
    exact ⟨settled_truth, settled_word32, settled_shortcut depth, settled_truth,
      List.forall_mem_nil _⟩
  shallow := by
    simp only [layout, List.forall_mem_cons]
    exact ⟨rfl, rfl, rfl, rfl, List.forall_mem_nil _⟩

theorem ProviderOptions.ofJson_eq_ok {text : String} {options : ProviderOptions} :
    ofJson text = .ok options ↔ decode ProviderOptions text = .ok options := by
  unfold ofJson
  cases decode ProviderOptions text <;> simp only [reduceCtorEq, Except.ok.injEq]

/-- The options of both providers can be sent in any record that gives each
    setting at most once, whatever else is in it, and in no other. A width is a
    number as it stands: it is never cut to size. -/
theorem options_lenient :
    Lenient ProviderOptions ProviderOptions.layout ∧
      Lenient SidebarOptions SidebarOptions.layout ∧
      (∀ text options, ProviderOptions.ofJson text = .ok options ↔
        decode ProviderOptions text = .ok options) ∧
      (∀ (form : Form) (n : UInt32), decode UInt32 (String.ofList form.text) = .ok n ↔
        ∃ token, form = .number token ∧ token.Spells n.toNat) ∧
      ∀ (record : RecordText) options, decode SidebarOptions record.text = .ok options →
        ∀ form ∈ record.under "mobileBreakpointPx",
          ∃ token, form = .number token ∧ token.Spells options.breakpoint.toNat := by
  refine ⟨ProviderOptions.layout_describes.lenient, SidebarOptions.layout_describes.lenient,
    fun text options => ProviderOptions.ofJson_eq_ok, decode_word32, ?_⟩
  intro record options hdecode form hform
  have hslots : ∀ slot ∈ SidebarOptions.layout.slots, slot.Holds record options :=
    fun slot hslot => (SidebarOptions.layout_describes.holds_of_decode hdecode hslot).2
  -- The second slot is the width.
  simp only [SidebarOptions.layout, List.forall_mem_cons] at hslots
  exact (decode_word32 form options.breakpoint).mp (hslots.2.1.given form hform)

/-- A text whose characters are written as they are. -/
def plainly (text : String) : List Piece :=
  text.toList.filterMap fun c =>
    if h : ' ' ≤ c ∧ c ≠ '"' ∧ c ≠ '\\' then some (.plain c h) else none

/-- The letter `d`, written as an escape. -/
def escapedD : Piece := .unit ['0', '0', '6', '4'] 0x64 rfl

/-- An entry without blanks, under a key without escapes. -/
def plainEntry (key : String) (value : Form) : Entry Form where
  before := .none
  key := plainly key
  behindKey := .none
  beforeValue := .none
  value := value
  after := .none

/-- The largest number of thirty-two bits. -/
def largestWord : NumberForm where
  isNegative := false
  integer := ⟨"4294967295".toList, by decide, List.all_eq_true.mp (by decide)⟩
  fraction := none
  exponent := none
  proper := by decide

/-- A record with a key that is not asked for, half a character under it, and a
    width under a key with an escape in it. -/
def crowdedRecord : RecordText where
  before := ⟨[' '], List.forall_mem_singleton.mpr (by decide)⟩
  opening := .none
  entries :=
    [{ before := .none, key := plainly "px", behindKey := .none
       beforeValue := ⟨['\n'], List.forall_mem_singleton.mpr (by decide)⟩
       value := .list .none [⟨.none, .quoted [.unit ['d', '8', '0', '0'] 0xd800 rfl], .none⟩]
       after := .none },
     { before := ⟨['\t'], List.forall_mem_singleton.mpr (by decide)⟩
       key := .unit ['0', '0', '6', 'd'] 0x6d rfl :: plainly "obileBreakpointPx"
       behindKey := .none, beforeValue := .none, value := .number largestWord, after := .none }]
  after := .none

theorem options_lenient_crowded :
    crowdedRecord.text =
        " \x7b\"px\":\n[\"\\ud800\"],\t\"\\u006dobileBreakpointPx\":4294967295\x7d" ∧
      decode SidebarOptions crowdedRecord.text = .ok { breakpoint := 4294967295 } := by
  have hopen : crowdedRecord.under "defaultOpen" = [] := rfl
  have hpx : crowdedRecord.under "mobileBreakpointPx" = [.number largestWord] := rfl
  have hshortcut : crowdedRecord.under "shortcut" = [] := rfl
  have henabled : crowdedRecord.under "shortcutEnabled" = [] := rfl
  have hword : decode UInt32 (String.ofList (Form.number largestWord).text) = .ok 4294967295 :=
    (options_lenient.2.2.2.1 _ _).mpr ⟨largestWord, rfl, rfl, rfl, rfl, rfl⟩
  -- Only the width is there, and only once.
  have honce : ∀ slot ∈ SidebarOptions.layout.slots,
      (crowdedRecord.under slot.name).length ≤ 1 := by
    decide
  have hvalue : ∀ slot ∈ SidebarOptions.layout.slots, ∀ form ∈ crowdedRecord.under slot.name,
      ∃ v, slot.Decodes form v := by
    simp only [SidebarOptions.layout, List.forall_mem_cons, hopen, hpx, hshortcut, henabled]
    exact ⟨List.forall_mem_nil _, ⟨⟨_, hword⟩, List.forall_mem_nil _⟩, List.forall_mem_nil _,
      List.forall_mem_nil _, List.forall_mem_nil _⟩
  -- The others have what they have by default.
  have hslots : ∀ slot ∈ SidebarOptions.layout.slots,
      slot.Holds crowdedRecord { breakpoint := 4294967295 } := by
    simp only [SidebarOptions.layout, List.forall_mem_cons]
    refine ⟨⟨?_, fun _ => rfl⟩, ⟨?_, ?_⟩, ⟨?_, fun _ => rfl⟩, ⟨?_, fun _ => rfl⟩,
      List.forall_mem_nil _⟩
    · rw [hopen]
      exact List.forall_mem_nil _
    · rw [hpx]
      exact List.forall_mem_singleton.mpr hword
    · rw [hpx]
      exact fun hnil => absurd hnil (List.cons_ne_nil _ _)
    · rw [hshortcut]
      exact List.forall_mem_nil _
    · rw [henabled]
      exact List.forall_mem_nil _
  rcases options_lenient.2.1.accepts crowdedRecord (by decide) honce hvalue with
    ⟨options, hdecode, hholds⟩
  rw [hdecode, (hholds _).mp hslots]
  exact ⟨rfl, rfl⟩

end DashKit
