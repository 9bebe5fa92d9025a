import DashKit.Codec.Chart
import DashKit.Proofs.Codec.Lenient
import DashKit.Proofs.Codec.Trees

/-!
# Colors by Their Shape

Which values are colors, and what becomes of the color of a series.

A color has no mark of its own. It is told by its shape: a string is a color,
and so is a record with one string for light and one for dark. Whatever else is
in the record means nothing, and nothing else is a color. `Form.IsColor` says so
of the text, so the order of the keys and the way they are written down do not
matter.

To tell the shape the value is read as a tree first, and the shape of the tree
is that of the form (`ofValue_tree`). The price is that the parts that mean
nothing have to be read too. A number among them that is too large is the end of
the color (`edgeColor_refused`), although nobody asked for it.

A series passes its color on to the same reader, with one bracket open, and adds
only that there may be none. It is followed entry by entry as its two parts.

## Main definitions

* `Form.IsColor`: A form has the shape of a color.
* `SeriesDraft.layout`: The two parts of a series.

## Theorems

* `ofValue_tree`: The tree of a form has the shape of the form.
* `value?_color`: Which forms are read as a color.
* `decode_series`: Only the value of its color decides about a series.
* `decode_color_by_shape`: Which values are colors, alone and in a series.
* `edgeColor_refused`: A number in range that is the end of a color.
-/

namespace DashKit

open Json

namespace Json

variable {α β : Type}

/-! ### Members by their names -/

theorem mapM_eq_singleton {f : β → Option α} {bs : List β} {a : α} :
    bs.mapM f = some [a] ↔ ∃ b, bs = [b] ∧ f b = some a := by
  cases bs with
  | nil => simp only [List.mapM_nil, Option.pure_def, Option.some.injEq, reduceCtorEq, false_and,
      exists_false]
  | cons b bs =>
      simp only [mapM_cons, Option.bind_eq_some_iff, Option.map_eq_some_iff, List.cons.injEq]
      constructor
      -- Nothing is left for a second element.
      · rintro ⟨one, hone, others, hothers, rfl, rfl⟩
        cases bs with
        | nil => exact ⟨b, ⟨rfl, rfl⟩, hone⟩
        | cons c bs =>
            rw [mapM_cons] at hothers
            rcases Option.bind_eq_some_iff.mp hothers with ⟨other, _, hmore⟩
            rcases Option.map_eq_some_iff.mp hmore with ⟨_, _, hcons⟩
            exact absurd hcons (List.cons_ne_nil _ _)
      · rintro ⟨b, ⟨rfl, rfl⟩, hone⟩
        exact ⟨a, hone, [], rfl, rfl, rfl⟩

/-- The members of a name are what is read in the values under it. -/
theorem mapM_under {read : Form → Option α} (name : String) {entries : List (Entry Form)}
    {members : List (String × α)} (h : members? read entries = some members) :
    (under name entries).mapM read =
      some ((members.filter fun member => member.1 == name).map Prod.snd) := by
  induction entries generalizing members with
  | nil =>
      have hnil : [] = members := Option.some.inj h
      rw [← hnil]
      rfl
  | cons entry entries ih =>
      rw [members?, mapM_cons] at h
      rcases Option.bind_eq_some_iff.mp h with ⟨member, hmember, hrest⟩
      rcases Option.map_eq_some_iff.mp hrest with ⟨others, hothers, rfl⟩
      rcases Option.bind_eq_some_iff.mp hmember with ⟨own, hname, hvalue⟩
      rcases Option.map_eq_some_iff.mp hvalue with ⟨a, ha, rfl⟩
      have hih := ih hothers
      -- The entry is under the name or not, and its member is kept by the filter or not.
      by_cases hown : own = name
      · have hkept : (own == name) = true := beq_iff_eq.mpr hown
        rw [under_cons_of_eq (hown ▸ hname), mapM_cons, ha, hih]
        simp only [List.filter_cons, hkept, if_true, List.map_cons, Option.bind_some,
          Option.map_some]
      · have hdropped : (own == name) = false := beq_eq_false_iff_ne.mpr hown
        have hne : entry.name? ≠ some name := by
          rw [hname, ne_eq, Option.some.injEq]
          exact hown
        rw [under_cons_of_ne hne, hih]
        simp only [List.filter_cons, hdropped, Bool.false_eq_true, if_false]

theorem tree?_eq_text {depth : Nat} {form : Form} {text : String} :
    form.tree? depth = some (.text text) ↔ form.Spells text := by
  unfold Form.Spells
  cases form with
  | quoted pieces =>
      rw [Form.tree?, Option.map_eq_some_iff]
      simp only [Value.text.injEq, Form.quoted.injEq, exists_eq_left']
      constructor
      · rintro ⟨s, hs, rfl⟩
        rw [hs, String.toList_ofList]
      · intro h
        exact ⟨_, h, String.ofList_toList⟩
  -- No other form has a text for its tree, at any depth.
  | list opening items =>
      cases depth <;>
        simp only [Form.tree?, reduceCtorEq, false_and, exists_const, Option.map_eq_some_iff,
          and_false]
  | record opening entries =>
      cases depth <;>
        simp only [Form.tree?, reduceCtorEq, false_and, exists_const, Option.map_eq_some_iff,
          and_false]
  | _ => simp [Form.tree?]

theorem tree?_eq_record {depth : Nat} {form : Form} {members : List (String × Value)} :
    form.tree? depth = some (.record members) ↔ ∃ inner opening entries,
      depth = inner + 1 ∧ form = .record opening entries ∧
        members? (Form.tree? inner) entries = some members := by
  cases form with
  | list opening items => cases depth <;> simp [Form.tree?]
  | record opening entries => cases depth <;> simp [Form.tree?]
  | _ => simp [Form.tree?]

/-- A form has the shape of a color: a string, or a record of any entries with
    one string under each scheme. -/
def Form.IsColor (form : Form) : Color → Prop
  | .fixed css => form.Spells css
  | .themed light dark => ∃ opening entries, form = .record opening entries ∧
      GivesText entries "light" light ∧ GivesText entries "dark" dark

end Json

theorem onlyUnder_eq_some {name : String} {members : List (String × Value)} {v : Value} :
    onlyUnder name members = some v ↔
      (members.filter fun member => member.1 == name).map Prod.snd = [v] := by
  unfold onlyUnder
  split
  -- There is exactly one member of the name, or there is none or there are several.
  · next member h => rw [h, Option.some.injEq, List.map_singleton, List.singleton_inj]
  · next h =>
      rw [List.map_eq_singleton_iff]
      refine iff_of_false (Option.some_ne_none v).symm ?_
      rintro ⟨member, hmember, _⟩
      exact h member hmember

theorem onlyUnder_eq_text {depth : Nat} {entries : List (Entry Form)}
    {members : List (String × Value)} (h : members? (Form.tree? depth) entries = some members)
    (name text : String) :
    onlyUnder name members = some (.text text) ↔ GivesText entries name text := by
  have hunder := mapM_under name h
  rw [onlyUnder_eq_some, ← Option.some.injEq, ← hunder, mapM_eq_singleton]
  simp only [tree?_eq_text]
  rfl

theorem ofValue_eq_fixed {v : Value} {css : String} :
    Color.ofValue v = .ok (.fixed css) ↔ v = .text css := by
  unfold Color.ofValue
  cases v with
  | text s => simp only [Except.ok.injEq, Color.fixed.injEq, Value.text.injEq]
  | record members =>
      dsimp only
      split <;> simp only [Except.ok.injEq, reduceCtorEq]
  | _ => simp only [reduceCtorEq]

theorem ofValue_eq_themed {v : Value} {light dark : String} :
    Color.ofValue v = .ok (.themed light dark) ↔ ∃ members, v = .record members ∧
      onlyUnder "light" members = some (.text light) ∧
        onlyUnder "dark" members = some (.text dark) := by
  unfold Color.ofValue
  cases v with
  | record members =>
      dsimp only
      split
      · next one other hone hother => simp [hone, hother]
      -- One of the two schemes is missing, or is there twice, or is no string.
      · next h =>
          refine iff_of_false (by simp only [reduceCtorEq, not_false_eq_true]) ?_
          rintro ⟨others, hmembers, hlight, hdark⟩
          rw [Value.record.injEq] at hmembers
          rw [← hmembers] at hlight hdark
          exact h light dark hlight hdark
  | _ => simp only [reduceCtorEq, false_and, exists_const, Except.ok.injEq]

/-- The tree of a form has the shape of a color exactly if the form has it. -/
theorem ofValue_tree {depth : Nat} {form : Form} {v : Value} (h : form.tree? depth = some v)
    (color : Color) : Color.ofValue v = .ok color ↔ form.IsColor color := by
  cases color with
  | fixed css =>
      have htext : form.tree? depth = some (.text css) ↔ form.Spells css := tree?_eq_text
      rw [ofValue_eq_fixed, Form.IsColor, ← htext, h, Option.some.injEq]
  | themed light dark =>
      rw [ofValue_eq_themed]
      constructor
      -- A record can only be the tree of a record, with one bracket to spare.
      · rintro ⟨members, rfl, hlight, hdark⟩
        rcases tree?_eq_record.mp h with ⟨inner, opening, entries, rfl, rfl, hmembers⟩
        exact ⟨opening, entries, rfl, (onlyUnder_eq_text hmembers _ _).mp hlight,
          (onlyUnder_eq_text hmembers _ _).mp hdark⟩
      · rintro ⟨opening, entries, rfl, hlight, hdark⟩
        cases depth with
        | zero => exact absurd h (Option.some_ne_none v).symm
        | succ depth =>
            rw [Form.tree?] at h
            rcases Option.map_eq_some_iff.mp h with ⟨members, hmembers, rfl⟩
            exact ⟨members, rfl, (onlyUnder_eq_text hmembers _ _).mpr hlight,
              (onlyUnder_eq_text hmembers _ _).mpr hdark⟩

/-- What is read as a color has a tree and the shape of that color. -/
theorem value?_color {depth : Nat} {form : Form} {color : Color} :
    (Codec.reader depth : Reader Color).value? form.text = some color ↔
      (form.Nests depth ∧ form.Sound NumberForm.IsKept) ∧ form.IsColor color := by
  -- A color is read as a tree, and then its shape is told.
  have hvalue : (Codec.reader depth : Reader Color).value? form.text =
      (form.tree? depth).bind fun v => (Color.ofValue v).toOption := by
    rw [← value?_tree]
    exact value?_sift (settled_value depth) Color.ofValue form
  have htoOption : ∀ v, (Color.ofValue v).toOption = some color ↔ Color.ofValue v = .ok color := by
    intro v
    cases Color.ofValue v <;>
      simp only [Except.toOption, reduceCtorEq, Option.some.injEq, Except.ok.injEq]
  rw [hvalue, ← tree?_ne_none, Option.bind_eq_some_iff]
  simp only [htoOption]
  constructor
  · rintro ⟨v, hv, hcolor⟩
    exact ⟨hv ▸ Option.some_ne_none v, (ofValue_tree hv color).mp hcolor⟩
  · rintro ⟨hsome, hcolor⟩
    rcases Option.ne_none_iff_exists'.mp hsome with ⟨v, hv⟩
    exact ⟨v, hv, (ofValue_tree hv color).mpr hcolor⟩

theorem settled_color (depth : Nat) : Settled (Codec.reader depth : Reader Color) :=
  (settled_value depth).sift Color.ofValue

/-! ### Colors of a series -/

theorem eq_of_run_eq {α : Type} {one other : Reader α} (h : one.run = other.run) : one = other := by
  cases one
  cases other
  cases h
  rfl

/-- Two changes to what is read are one. -/
theorem map_map {α β γ : Type} (reader : Reader α) (f : α → β) (g : β → γ) :
    (reader.map f).map g = reader.map (g ∘ f) := by
  refine eq_of_run_eq ?_
  funext s
  simp only [Reader.map]
  cases reader.run s <;> rfl

/-- A label that was read is one that is there. -/
abbrev labelCodec : Codec (Option String) where
  reader depth := (Codec.reader depth : Reader String).map some
  value
    | none => .null
    | some label => Codec.value label

/-- The two parts of a series. -/
def SeriesDraft.layout : Layout SeriesDraft where
  slots :=
    [{ name := "label", Kind := Option String, codec := labelCodec
       get := label, set v draft := { draft with label := v }, get_set _ _ := rfl },
     { name := "color", Kind := Option Color, codec := inferInstance
       get := color, set v draft := { draft with color := v }, get_set _ _ := rfl }]
  distinct := by decide
  apart := by simp
  whole a b h := by
    simp only [List.forall_mem_cons] at h
    rcases a with ⟨label, color⟩
    rcases h with ⟨rfl, rfl, _⟩
    rfl

theorem seriesShape_fields (depth : Nat) :
    seriesShape.fields depth = SeriesDraft.layout.fields depth := by
  -- The shape sets the label in one step, the layout reads it as an option first.
  have hlabel := map_map (Codec.reader depth : Reader String) some
    fun v (draft : SeriesDraft) => { draft with label := v }
  exact congrArg (fun reader => [Json.Field.mk "label" reader,
    .of depth "color" fun v draft => { draft with color := v }]) hlabel.symm

theorem settled_series (depth : Nat) :
    ∀ field ∈ seriesShape.fields depth, Settled field.reader := by
  simp only [seriesShape, List.forall_mem_cons]
  exact ⟨settled_text.map _, (settled_optional (settled_color depth)).map _,
    List.forall_mem_nil _⟩

/-- A series is read entry by entry, and it must have a label. -/
theorem decode_series_run (record : RecordText) (series : Series) :
    decode Series record.text = .ok series ↔ ∃ q : Progress SeriesDraft,
      record.entries.foldlM (SeriesDraft.layout.step (maxDepth - 1)) ⟨[], {}⟩ = some q ∧
        q.draft.label = some series.label ∧ q.draft.color = series.color := by
  -- At the end a series is made of its draft exactly if there is a label.
  have hfinish : ∀ draft, (seriesShape.finish draft).toOption = some series ↔
      draft.label = some series.label ∧ draft.color = series.color := by
    rintro ⟨label, color⟩
    rcases series with ⟨own, shade⟩
    cases label <;> simp [seriesShape, required, Except.map, Except.toOption]
  rw [decode_record rfl settled_series, named?, seriesShape_fields, Option.bind_eq_some_iff]
  simp only [hfinish]
  rfl

section Series

variable {record : RecordText} {label : String}

theorem value?_label {depth : Nat} {form : Form} (h : form.Spells label) :
    (labelCodec.reader depth).value? form.text = some (some label) := by
  refine (value?_map Reader.text some form.text).trans ?_
  rw [value?_text h, Option.map_some]

/-- What the entries of a series make of the two parts. -/
theorem filled_series (hlabel : GivesText record.entries "label" label)
    {q : Progress SeriesDraft}
    (hq : record.entries.foldlM (SeriesDraft.layout.step (maxDepth - 1)) ⟨[], {}⟩ = some q) :
    q.draft.label = some label ∧ (record.under "color" = [] → q.draft.color = none) ∧
      ∀ form ∈ record.under "color",
        (Codec.reader (maxDepth - 1) : Reader (Option Color)).value? form.text =
          some q.draft.color := by
  have hfilled : ∀ slot ∈ SeriesDraft.layout.slots,
      slot.Filled (maxDepth - 1) record.entries ⟨[], {}⟩ q :=
    fun slot hslot => Layout.filled_of_run hq hslot
  simp only [SeriesDraft.layout, List.forall_mem_cons] at hfilled
  rcases hfilled with ⟨hown, hcolor, _⟩
  rcases hlabel with ⟨form, hunder, hspells⟩
  have hfound : (labelCodec.reader (maxDepth - 1)).value? form.text = some q.draft.label :=
    hown.found form (hunder ▸ List.mem_singleton_self form)
  exact ⟨Option.some.inj (hfound.symm.trans (value?_label hspells)), hcolor.kept, hcolor.found⟩

/-- Where there is one text under the label and at most one value under the
    color, only the value of the color can be wrong. -/
theorem decode_series (hspelled : ∀ entry ∈ record.entries, spelling? entry.key ≠ none)
    (hlabel : GivesText record.entries "label" label)
    (hcolor : (record.under "color").length ≤ 1) (series : Series) :
    decode Series record.text = .ok series ↔ series.label = label ∧
      (record.under "color" = [] → series.color = none) ∧
      ∀ form ∈ record.under "color",
        (Codec.reader (maxDepth - 1) : Reader (Option Color)).value? form.text =
          some series.color := by
  rw [decode_series_run]
  constructor
  · rintro ⟨q, hq, hown, hshade⟩
    rcases filled_series hlabel hq with ⟨hq, hnone, hsome⟩
    rw [← hshade]
    exact ⟨Option.some.inj (hown.symm.trans hq), hnone, hsome⟩
  · rintro ⟨hown, hnone, hsome⟩
    have hnamed : ∀ entry ∈ record.entries, entry.name? ≠ none :=
      fun entry hentry => Entry.name?_ne_none.mpr (hspelled entry hentry)
    rcases hlabel with ⟨text, hunder, hspells⟩
    -- No slot is filled twice, and every value can be read, so the run comes to its end.
    have honce : ∀ slot ∈ SeriesDraft.layout.slots, slot.Once [] record.entries := by
      simp only [SeriesDraft.layout, List.forall_mem_cons]
      exact ⟨.of_length (hunder ▸ Nat.le_refl 1), .of_length hcolor, List.forall_mem_nil _⟩
    have hfound : ∀ slot ∈ SeriesDraft.layout.slots, ∀ form ∈ under slot.name record.entries,
        ∃ v, slot.value? (maxDepth - 1) form = some v := by
      simp only [SeriesDraft.layout, List.forall_mem_cons, hunder]
      exact ⟨⟨⟨_, value?_label hspells⟩, List.forall_mem_nil _⟩,
        fun form hform => ⟨_, hsome form hform⟩, List.forall_mem_nil _⟩
    rcases Layout.run_isSome (p := ⟨[], {}⟩) hnamed honce hfound with ⟨q, hq⟩
    rcases filled_series ⟨text, hunder, hspells⟩ hq with ⟨hlabelq, hnoneq, hsomeq⟩
    refine ⟨q, hq, hown ▸ hlabelq, ?_⟩
    -- The color of the draft is the one that was asked for, given or not.
    cases hshade : record.under "color" with
    | nil => exact (hnoneq hshade).trans (hnone hshade).symm
    | cons form forms =>
        have hform : form ∈ record.under "color" := hshade ▸ List.mem_cons_self
        exact Option.some.inj ((hsomeq form hform).symm.trans (hsome form hform))

theorem decode_series_plain (hspelled : ∀ entry ∈ record.entries, spelling? entry.key ≠ none)
    (hlabel : GivesText record.entries "label" label)
    (hcolor : record.under "color" = [] ∨ record.under "color" = [.null]) :
    decode Series record.text = .ok { label, color := none } := by
  rcases hcolor with hunder | hunder
  · refine (decode_series hspelled hlabel (hunder ▸ Nat.zero_le 1) _).mpr ⟨rfl, fun _ => rfl, ?_⟩
    rw [hunder]
    exact List.forall_mem_nil _
  · refine (decode_series hspelled hlabel (hunder ▸ Nat.le_refl 1) _).mpr ⟨rfl, fun _ => rfl, ?_⟩
    rw [hunder, List.forall_mem_singleton]
    rfl

/-- The color of a series is read with one bracket open, which makes no
    difference to a value that leaves one to spare. -/
theorem decode_series_colored (hspelled : ∀ entry ∈ record.entries, spelling? entry.key ≠ none)
    (hlabel : GivesText record.entries "label" label) {form : Form}
    (hunder : record.under "color" = [form]) (hnull : form ≠ .null)
    (hnests : form.Nests (maxDepth - 1)) (series : Series) :
    decode Series record.text = .ok series ↔ ∃ color,
      decode Color (String.ofList form.text) = .ok color ∧
        series = { label, color := some color } := by
  have hwhole : form.Nests maxDepth := hnests.succ
  -- With one bracket open or none, the same forms are colors.
  have hcolor : ∀ color,
      (Codec.reader (maxDepth - 1) : Reader Color).value? form.text = some color ↔
        decode Color (String.ofList form.text) = .ok color := by
    intro color
    rw [decode_form_alone (settled_color maxDepth), value?_color, value?_color,
      and_iff_right hnests, and_iff_right hwhole]
  have hshade : (Codec.reader (maxDepth - 1) : Reader (Option Color)).value? form.text =
      ((Codec.reader (maxDepth - 1) : Reader Color).value? form.text).map some :=
    value?_optional (settled_color (maxDepth - 1)) hnull
  rw [decode_series hspelled hlabel (hunder ▸ Nat.le_refl 1), hunder, List.forall_mem_singleton,
    hshade, Option.map_eq_some_iff]
  simp only [hcolor]
  constructor
  · rintro ⟨hown, _, color, hdecode, hshade⟩
    refine ⟨color, hdecode, ?_⟩
    rcases series with ⟨own, shade⟩
    obtain rfl : own = label := hown
    obtain rfl : some color = shade := hshade
    rfl
  · rintro ⟨color, hdecode, rfl⟩
    exact ⟨rfl, fun hnil => absurd hnil (List.cons_ne_nil _ _), color, hdecode, rfl⟩

end Series

/-- A value is a color exactly if it has the shape of one, whatever else is in
    it, and whatever blanks are around it: a string is a fixed color, and a record
    with one string under each scheme is a themed one. All that is asked of the
    rest is that it can be read at all. A series has no color if none is given or
    `null` is, and else the one that the value under its key is by itself. -/
theorem decode_color_by_shape :
    (∀ (before after : Gap) (form : Form) (color : Color),
      decode Color (String.ofList (before.chars ++ (form.text ++ after.chars))) = .ok color ↔
        (form.Nests maxDepth ∧ form.Sound NumberForm.IsKept) ∧ form.IsColor color) ∧
    ∀ (record : RecordText) (label : String),
      (∀ entry ∈ record.entries, spelling? entry.key ≠ none) →
      GivesText record.entries "label" label →
      (record.under "color" = [] ∨ record.under "color" = [.null] →
        decode Series record.text = .ok { label, color := none }) ∧
      ∀ form, record.under "color" = [form] → form ≠ .null → form.Nests (maxDepth - 1) →
        ∀ series, decode Series record.text = .ok series ↔ ∃ color,
          decode Color (String.ofList form.text) = .ok color ∧
            series = { label, color := some color } := by
  refine ⟨?_, fun record label hspelled hlabel => ⟨?_, ?_⟩⟩
  · intro before after form color
    rw [decode_form (settled_color maxDepth), value?_color]
  · exact decode_series_plain hspelled hlabel
  · intro form hunder hnull hnests series
    exact decode_series_colored hspelled hlabel hunder hnull hnests series

/-- A themed color with an escape in a key, and with more in it that has brackets
    and numbers. -/
def crowdedColor : Form :=
  .record ⟨['\r'], List.forall_mem_singleton.mpr (by decide)⟩
    [{ plainEntry "" (.quoted (plainly "#000")) with
        key := escapedD :: plainly "ark" },
     plainEntry "px" (.list .none [⟨.none, .number largestWord, .none⟩, ⟨.none, .null, .none⟩]),
     plainEntry "light" (.quoted (plainly "#fff"))]

/-- A series in that color, with a number that is too large in another
    place. -/
def crowdedSeries : RecordText where
  before := .none
  opening := .none
  entries :=
    [plainEntry "color" crowdedColor, plainEntry "label" (.quoted (plainly "Visits")),
     plainEntry "max" (.number edgeNumber)]
  after := .none

theorem decode_color_by_shape_crowded :
    crowdedSeries.text =
        "\x7b\"color\":\x7b\r\"\\u0064ark\":\"#000\",\"px\":[4294967295,null],"
          ++ "\"light\":\"#fff\"\x7d,\"label\":\"Visits\",\"max\":1797693134862315700e290\x7d" ∧
      decode Series crowdedSeries.text =
        .ok { label := "Visits", color := some (.themed "#fff" "#000") } := by
  -- Nothing in the color is deeper than its list.
  have hnests : ∀ depth, crowdedColor.Nests (depth + 2) := by
    intro depth
    refine .record ?_
    simp only [List.forall_mem_cons]
    refine ⟨.quoted _, .list ?_, .quoted _, List.forall_mem_nil _⟩
    simp only [List.forall_mem_cons]
    exact ⟨.number _, .null, List.forall_mem_nil _⟩
  have hsound : crowdedColor.Sound NumberForm.IsKept := by
    refine .record (by decide) ?_
    simp only [List.forall_mem_cons]
    refine ⟨.quoted (by decide), .list ?_, .quoted (by decide), List.forall_mem_nil _⟩
    simp only [List.forall_mem_cons]
    exact ⟨.number ⟨_, rfl⟩, .null, List.forall_mem_nil _⟩
  have hcolor : crowdedColor.IsColor (.themed "#fff" "#000") :=
    ⟨_, _, rfl, ⟨_, rfl, _, rfl, rfl⟩, ⟨_, rfl, _, rfl, rfl⟩⟩
  have hdecode := (decode_color_by_shape.1 .none .none crowdedColor _).mpr
    ⟨⟨hnests _, hsound⟩, hcolor⟩
  rw [show Gap.none.chars ++ (crowdedColor.text ++ Gap.none.chars) = crowdedColor.text from
    List.append_nil _] at hdecode
  have hnull : crowdedColor ≠ .null := by
    simp only [crowdedColor, ne_eq, reduceCtorEq, not_false_eq_true]
  have hseries := decode_color_by_shape.2 crowdedSeries "Visits" (by decide) ⟨_, rfl, _, rfl, rfl⟩
  refine ⟨by decide +kernel, ?_⟩
  exact (hseries.2 crowdedColor rfl hnull (hnests _) _).mpr ⟨_, hdecode, rfl⟩

/-- A themed color with a number in it that is in range but too large. -/
def edgeColor : Form :=
  .record .none
    [plainEntry "light" (.quoted (plainly "a")), plainEntry "dark" (.quoted (plainly "b")),
     plainEntry "x" (.number edgeNumber)]

/-- It is not enough that the numbers are in range. -/
theorem edgeColor_refused :
    String.ofList edgeColor.text =
        "\x7b\"light\":\"a\",\"dark\":\"b\",\"x\":1797693134862315700e290\x7d" ∧
      edgeColor.Nests 100 ∧ edgeColor.Sound NumberForm.InRange ∧
      edgeColor.IsColor (.themed "a" "b") ∧
      ∃ refusal, decode Color (String.ofList edgeColor.text) = .error refusal := by
  refine ⟨rfl, ?_, ?_, ⟨_, _, rfl, ⟨_, rfl, _, rfl, rfl⟩, ⟨_, rfl, _, rfl, rfl⟩⟩, ?_⟩
  · refine .record ?_
    simp only [List.forall_mem_cons]
    exact ⟨.quoted _, .quoted _, .number _, List.forall_mem_nil _⟩
  · refine .record (by decide) ?_
    simp only [List.forall_mem_cons]
    exact ⟨.quoted (by decide), .quoted (by decide), .number edgeNumber_inRange,
      List.forall_mem_nil _⟩
  -- Were it a color, its number would be kept, and it is not.
  · refine decode_eq_error ?_
    intro color hdecode
    rw [decode_form_alone (settled_color maxDepth), value?_color] at hdecode
    cases hdecode.1.2 with
    | record _ hsound =>
        have hmem : plainEntry "x" (.number edgeNumber) ∈
            [plainEntry "light" (.quoted (plainly "a")), plainEntry "dark" (.quoted (plainly "b")),
              plainEntry "x" (.number edgeNumber)] := by
          simp only [List.mem_cons, true_or, or_true]
        have hnumber := hsound _ hmem
        cases hnumber with
        | number hkept => exact edgeNumber_not_kept hkept

end DashKit
