import DashKit.Proofs.Codec.Settled

/-!
# Records Filled by Their Entries

What a record of known fields makes of a text, entry by entry.

The entries of a record come as the sender likes: in any order, with others
between them that mean nothing, with their keys in any spelling. Reading them
is a fold. `fill` is the step: it knows the key by what it spells and the
change by what the reader of its value makes of the value by itself, and says
nothing of the text around the two. `finds_scanEntries` is the one place where
the text is dealt with.

The same goes for a record written as a list of its fields, only that the
list may end early and may not go on behind the last field. Whether it does is
found out by whoever takes the closing bracket, so both ways of writing are
followed up to the bracket.

## Main definitions

* `fill`: What an entry makes of the entries before it.
* `listed?`: What the items of a list make of the fields in their order.
* `named?`, `inOrder?`: What a shape makes of the entries of a record and of the
  items of a list.

## Theorems

* `finds_scanEntries`: The entries of a record are folded.
* `settled_shape`: Records with known fields are settled if their fields are.
-/

namespace DashKit

namespace Json

variable {α β σ : Type}

/-- A list of items or entries behind the first one, and what follows them. -/
abbrev laterText (parts : List (List Char)) (t : List Char) : List Char :=
  parts.flatMap (fun w => ',' :: w) ++ t

/-! ### Entries -/

section Entries

theorem finds_scanKeyText (key : List Piece) (t : List Char) :
    Finds (scanKeyText (quotedText key ++ t))
      ((spelling? key).map fun text => some (String.ofList text)) t := by
  have hscan := finds_scanText key t
  rw [quotedText_append, scanKeyText]
  rcases hscan.split with ⟨hnone, e, he⟩ | ⟨text, hsome, htext⟩
  · simp only [he, hnone]
    exact Finds.error e
  · simp only [htext, hsome, Option.map_some]
    exact Finds.some_iff.mpr rfl

theorem scanKey_opening (opening before : Gap) (key : List Piece) (t : List Char) :
    scanKey true (opening.chars ++ (before.chars ++ (quotedText key ++ t))) =
      scanKeyText (quotedText key ++ t) := by
  have hend : '"' ≠ recordEnd := by decide
  rw [quotedText_append, scanKey, afterGap_gap, afterGap_token before (by decide)]
  simp only [if_neg hend, if_true]

theorem scanKey_comma (gap before : Gap) (key : List Piece) (t : List Char) :
    scanKey false (gap.chars ++ ',' :: (before.chars ++ (quotedText key ++ t))) =
      scanKeyText (quotedText key ++ t) := by
  have hcomma : ',' ≠ recordEnd := by decide
  have hend : '"' ≠ recordEnd := by decide
  rw [quotedText_append, scanKey, afterGap_token gap (by decide)]
  -- Blanks are skipped twice, in front of the comma and behind it.
  simp only [if_neg hcomma, Bool.false_eq_true, if_false, if_true,
    afterGap_token before (show isGap '"' = false by decide), if_neg hend]

theorem scanKey_end (first : Bool) (gap : Gap) (t : List Char) :
    scanKey first (gap.chars ++ recordEnd :: t) = .ok (none, recordEnd :: t) := by
  rw [scanKey, afterGap_token gap (by decide)]
  simp only [if_true]

variable (pick : β → String → Except Cause (Reader (β → β)))

/-- What an entry makes of what the entries before it amount to. It fails if
    its key spells nothing or is refused, or if its value is. -/
def fill (b : β) (entry : Entry Form) : Option β :=
  (spelling? entry.key).bind fun key =>
    (pick b (String.ofList key)).toOption.bind fun reader =>
      (reader.value? entry.value.text).map fun change => change b

/-- The next entry is read as the change that it makes. -/
theorem finds_scanEntry (hpick : ∀ b key reader, pick b key = .ok reader → Settled reader)
    {b : β} {first : Bool} {s t : List Char} {entry : Entry Form}
    (hs : scanKey first s = scanKeyText (quotedText entry.key ++ entry.behindText t))
    (ht : EndsNumber t) :
    (∃ change, scanEntry (pick b) first s = .ok (some change, entry.after.chars ++ t) ∧
      fill pick b entry = some (change b)) ∨
    (∃ e, scanEntry (pick b) first s = .error e) ∧ fill pick b entry = none := by
  have hkey := finds_scanKeyText entry.key (entry.behindText t)
  rw [← hs] at hkey
  rw [scanEntry, fill]
  -- An entry is lost at its key, at the choice of a reader, or at its value.
  cases hspelling : spelling? entry.key with
  | none =>
      rw [hspelling] at hkey
      rcases Finds.none_iff.mp hkey with ⟨e, he⟩
      simp only [he]
      exact .inr ⟨⟨e, rfl⟩, rfl⟩
  | some key =>
      rw [hspelling] at hkey
      have hkey := Finds.some_iff.mp hkey
      simp only [hkey, Option.bind_some]
      cases hp : pick b (String.ofList key) with
      | error cause => exact .inr ⟨⟨_, rfl⟩, rfl⟩
      | ok reader =>
          simp only [scanColon_behindText]
          have hvalue := (hpick b _ reader hp).finds_gap entry.beforeValue entry.value
            (endsNumber_gap entry.after ht)
          rcases hvalue.split with ⟨hnone, e, he⟩ | ⟨change, hsome, hchange⟩
          · refine .inr ⟨⟨e, ?_⟩, ?_⟩
            · simp only [Entry.fromValue, he]
            · simp only [Except.toOption, Option.bind_some, hnone, Option.map_none]
          · refine .inl ⟨change, ?_, ?_⟩
            · simp only [Entry.fromValue, hchange]
            · simp only [Except.toOption, Option.bind_some, hsome, Option.map_some]

theorem finds_scanEntries_later
    (hpick : ∀ b key reader, pick b key = .ok reader → Settled reader)
    (entries : List (Entry Form)) (b : β) (gap : Gap) (t : List Char) :
    Finds (scanEntries pick false b
        (gap.chars ++ laterText (entries.map Form.entryText) (recordEnd :: t)))
      (entries.foldlM (fill pick) b) (recordEnd :: t) := by
  induction entries generalizing b gap with
  | nil =>
      rw [List.map_nil, laterText, List.flatMap_nil, List.nil_append, scanEntries, scanEntry,
        scanKey_end]
      exact Finds.some_iff.mpr rfl
  | cons entry entries ih =>
      -- What follows the value ends a number, be it a comma or the bracket.
      have hends := endsNumber_parts (entries.map Form.entryText) (endsNumber_recordEnd t)
      have hkey := scanKey_comma gap entry.before entry.key
        (entry.behindText (laterText (entries.map Form.entryText) (recordEnd :: t)))
      rw [List.map_cons, laterText, List.flatMap_cons, List.cons_append, List.cons_append,
        List.append_assoc, entryText_append, scanEntries, List.foldlM_cons]
      rcases finds_scanEntry pick hpick hkey hends with
        ⟨change, hchange, hfill⟩ | ⟨⟨e, he⟩, hfill⟩
      · rw [hchange, hfill]
        exact ih (change b) entry.after
      · rw [he, hfill]
        exact Finds.error e

/-- The entries of a record are folded up to its bracket. -/
theorem finds_scanEntries
    (hpick : ∀ b key reader, pick b key = .ok reader → Settled reader)
    (opening : Gap) (entries : List (Entry Form)) (b : β) (t : List Char) :
    Finds (scanEntries pick true b (opening.chars ++
        (Value.separated (entries.map Form.entryText) ++ recordEnd :: t)))
      (entries.foldlM (fill pick) b) (recordEnd :: t) := by
  cases entries with
  | nil =>
      rw [List.map_nil, Value.separated, List.nil_append, scanEntries, scanEntry, scanKey_end]
      exact Finds.some_iff.mpr rfl
  | cons entry entries =>
      have hends := endsNumber_parts (entries.map Form.entryText) (endsNumber_recordEnd t)
      -- The first entry has no comma in front; all others are later ones.
      have hkey := scanKey_opening opening entry.before entry.key
        (entry.behindText (laterText (entries.map Form.entryText) (recordEnd :: t)))
      rw [List.map_cons, separated_cons, List.append_assoc, entryText_append, scanEntries,
        List.foldlM_cons]
      rcases finds_scanEntry pick hpick hkey hends with
        ⟨change, hchange, hfill⟩ | ⟨⟨e, he⟩, hfill⟩
      · rw [hchange, hfill]
        exact finds_scanEntries_later pick hpick entries (change b) entry.after t
      · rw [he, hfill]
        exact Finds.error e

end Entries

/-! ### Closing brackets -/

theorem enclosed_error (close : List Char → Option Cause × List Char) (e : Failure) :
    ∃ f, enclosed close (.error e : Outcome α) = .error f := by
  cases e with
  | placed cause spot => exact ⟨_, rfl⟩
  | loose cause rest => exact ⟨_, rfl⟩

/-- What was found up to its closing bracket is found with it. -/
theorem finds_enclosed {close : List Char → Option Cause × List Char} {s t : List Char}
    (hclose : close s = (none, t)) {outcome : Outcome α} {found : Option α}
    (h : Finds outcome found s) : Finds (enclosed close outcome) found t := by
  rcases h.split with ⟨rfl, e, rfl⟩ | ⟨a, rfl, rfl⟩
  · exact Finds.none_iff.mpr (enclosed_error close e)
  · exact Finds.some_iff.mpr (enclosed_eq_ok.mpr ⟨s, rfl, hclose⟩)

theorem closeList_end (gap : Gap) (t : List Char) :
    closeList (gap.chars ++ listEnd :: t) = (none, t) := by
  rw [closeList, afterGap_token gap (by decide)]
  rfl

/-- A list that goes on is not closed. -/
theorem closeList_of_ne {s r : List Char} {c : Char} (hg : afterGap s = c :: r)
    (hc : c ≠ listEnd) : ∃ cause t, closeList s = (some cause, t) := by
  rw [closeList, hg]
  simp only [if_neg hc]
  -- What is found instead of the bracket only decides between two complaints.
  split
  · split
    · exact ⟨_, _, rfl⟩
    · split <;> exact ⟨_, _, rfl⟩
  · exact ⟨_, _, rfl⟩

/-! ### Fields in their order -/

/-- What the items of a list make of the fields in their order. There may be
    fewer items than fields, but not more. -/
def listed? : List (Field σ) → σ → List (Item Form) → Option σ
  | [], draft, [] => some draft
  | [], _, _ :: _ => none
  | _ :: _, draft, [] => some draft
  | field :: fields, draft, item :: items =>
      (field.reader.value? item.value.text).bind fun change => listed? fields (change draft) items

section InOrder

theorem nextItem_opening (opening before : Gap) (form : Form) (t : List Char) :
    nextItem true (opening.chars ++ (before.chars ++ (form.text ++ t))) =
      .ok (true, form.text ++ t) := by
  rcases form.starts with ⟨c, r, htext, hc, hend, _⟩
  rw [nextItem, afterGap_gap, htext, List.cons_append, afterGap_token before hc]
  simp only [if_neg hend, if_true]

theorem nextItem_comma (gap before : Gap) (form : Form) (t : List Char) :
    nextItem false (gap.chars ++ ',' :: (before.chars ++ (form.text ++ t))) =
      .ok (true, form.text ++ t) := by
  have hcomma : ',' ≠ listEnd := by decide
  rcases form.starts with ⟨c, r, htext, hc, hend, _⟩
  rw [nextItem, afterGap_token gap (by decide), htext, List.cons_append]
  simp only [if_neg hcomma, Bool.false_eq_true, if_false, if_true, afterGap_token before hc,
    if_neg hend]

theorem nextItem_end (first : Bool) (gap : Gap) (t : List Char) :
    nextItem first (gap.chars ++ listEnd :: t) = .ok (false, listEnd :: t) := by
  rw [nextItem, afterGap_token gap (by decide)]
  simp only [if_true]

/-- The next item is read as the value that it is by itself. -/
theorem finds_scanItem {reader : Reader α} (h : Settled reader) {first : Bool} {s t : List Char}
    {item : Item Form}
    (hs : nextItem first s = .ok (true, item.value.text ++ (item.after.chars ++ t)))
    (ht : EndsNumber t) :
    (∃ a, scanItem reader first s = .ok (some a, item.after.chars ++ t) ∧
      reader.value? item.value.text = some a) ∨
    (∃ e, scanItem reader first s = .error e) ∧ reader.value? item.value.text = none := by
  have hvalue := h.finds item.value _ (endsNumber_gap item.after ht)
  rw [scanItem, hs]
  rcases hvalue.split with ⟨hnone, e, he⟩ | ⟨a, hsome, ha⟩
  · simp only [he]
    exact .inr ⟨⟨e, rfl⟩, hnone⟩
  · simp only [ha]
    exact .inl ⟨a, rfl, hsome⟩

theorem finds_scanInOrder_later {fields : List (Field σ)}
    (hfields : ∀ field ∈ fields, Settled field.reader) (items : List (Item Form)) (draft : σ)
    (gap : Gap) (t : List Char) :
    Finds (enclosed closeList (scanInOrder fields false draft
        (gap.chars ++ laterText (items.map Form.itemText) (listEnd :: t))))
      (listed? fields draft items) t := by
  induction fields generalizing items draft gap with
  | nil =>
      rw [scanInOrder]
      -- There are no fields left, so the list has to end here.
      cases items with
      | nil => exact Finds.some_iff.mpr (enclosed_eq_ok.mpr ⟨_, rfl, closeList_end gap t⟩)
      | cons item items =>
          rw [List.map_cons, laterText, List.flatMap_cons, List.cons_append, List.cons_append]
          have hcomma : isGap ',' = false := by decide
          have hend : ',' ≠ listEnd := by decide
          rcases closeList_of_ne (afterGap_token gap hcomma _) hend with ⟨cause, u, hclose⟩
          rw [enclosed, hclose]
          exact Finds.error _
  | cons field fields ih =>
      rw [scanInOrder]
      cases items with
      | nil =>
          rw [List.map_nil, laterText, List.flatMap_nil, List.nil_append, scanItem, nextItem_end]
          exact Finds.some_iff.mpr
            (enclosed_eq_ok.mpr ⟨_, rfl, closeList_listEnd t⟩)
      | cons item items =>
          have hends := endsNumber_parts (items.map Form.itemText) (endsNumber_listEnd t)
          have hnext := nextItem_comma gap item.before item.value
            (item.after.chars ++ laterText (items.map Form.itemText) (listEnd :: t))
          have hrest := fun other ho => hfields other (List.mem_cons_of_mem field ho)
          rw [List.map_cons, laterText, List.flatMap_cons, List.cons_append, List.cons_append,
            List.append_assoc, itemText_append, listed?]
          rcases finds_scanItem (hfields field List.mem_cons_self) hnext hends with
            ⟨change, hchange, hvalue⟩ | ⟨⟨e, he⟩, hvalue⟩
          · rw [hchange, hvalue]
            exact ih hrest items (change draft) item.after
          · rw [he, hvalue]
            exact Finds.none_iff.mpr (enclosed_error closeList e)

/-- The items of a list are read as fields up to its bracket. -/
theorem finds_scanInOrder {fields : List (Field σ)}
    (hfields : ∀ field ∈ fields, Settled field.reader) (opening : Gap) (items : List (Item Form))
    (draft : σ) (t : List Char) :
    Finds (enclosed closeList (scanInOrder fields true draft (opening.chars ++
        (Value.separated (items.map Form.itemText) ++ listEnd :: t))))
      (listed? fields draft items) t := by
  cases items with
  | nil =>
      rw [List.map_nil, Value.separated, List.nil_append]
      cases fields with
      | nil => exact Finds.some_iff.mpr (enclosed_eq_ok.mpr ⟨_, rfl, closeList_end opening t⟩)
      | cons field fields =>
          rw [scanInOrder, scanItem, nextItem_end]
          exact Finds.some_iff.mpr (enclosed_eq_ok.mpr ⟨_, rfl, closeList_listEnd t⟩)
  | cons item items =>
      rw [List.map_cons, separated_cons, List.append_assoc, itemText_append]
      cases fields with
      | nil =>
          -- An item where no field is left is not the end of the list.
          rcases item.value.starts with ⟨c, r, htext, hc, hend, _⟩
          rw [htext, List.cons_append]
          rcases closeList_of_ne ((afterGap_gap opening _).trans (afterGap_token item.before hc _))
            hend with ⟨cause, u, hclose⟩
          rw [scanInOrder, enclosed, hclose]
          exact Finds.error _
      | cons field fields =>
          have hends := endsNumber_parts (items.map Form.itemText) (endsNumber_listEnd t)
          have hnext := nextItem_opening opening item.before item.value
            (item.after.chars ++ laterText (items.map Form.itemText) (listEnd :: t))
          have hrest := fun other ho => hfields other (List.mem_cons_of_mem field ho)
          rw [scanInOrder, listed?]
          rcases finds_scanItem (hfields field List.mem_cons_self) hnext hends with
            ⟨change, hchange, hvalue⟩ | ⟨⟨e, he⟩, hvalue⟩
          · rw [hchange, hvalue]
            exact finds_scanInOrder_later hrest items (change draft) item.after t
          · rw [he, hvalue]
            exact Finds.none_iff.mpr (enclosed_error closeList e)

end InOrder

/-! ### Shapes -/

section Shapes

/-- Whatever reader a key picks, it is settled if those of the fields are. -/
theorem pickField_settled {fields : List (Field σ)}
    (hfields : ∀ field ∈ fields, Settled field.reader) (progress : Progress σ) (key : String)
    (reader : Reader (Progress σ → Progress σ)) (h : pickField fields progress key = .ok reader) :
    Settled reader := by
  unfold pickField at h
  split at h
  -- A key that names no field is passed over.
  · rw [Except.ok.injEq] at h
    rw [← h]
    exact settled_anything.map _
  · next field hf =>
      split at h
      -- A field that was given before has no reader.
      · simp only [reduceCtorEq] at h
      · rw [Except.ok.injEq] at h
        rw [← h]
        exact (hfields field (List.mem_of_find?_eq_some hf)).map _

variable {shape : Shape σ α} {depth : Nat}

/-- What the entries of a record make of a shape. -/
def named? (shape : Shape σ α) (depth : Nat) (entries : List (Entry Form)) : Option α :=
  (entries.foldlM (fill (pickField (shape.fields depth))) ⟨[], shape.blank⟩).bind fun progress =>
    (shape.finish progress.draft).toOption

theorem finds_scanNamed (hfields : ∀ field ∈ shape.fields depth, Settled field.reader)
    (opening : Gap) (entries : List (Entry Form)) (t : List Char) :
    Finds (scanNamed shape depth (opening.chars ++
        (Value.separated (entries.map Form.entryText) ++ recordEnd :: t)))
      (named? shape depth entries) (recordEnd :: t) := by
  have hscan := finds_scanEntries (pickField (shape.fields depth)) (pickField_settled hfields)
    opening entries ⟨[], shape.blank⟩ t
  rw [scanNamed, named?]
  rcases hscan.split with ⟨hnone, e, he⟩ | ⟨progress, hsome, hprogress⟩
  · simp only [he, hnone]
    exact Finds.error e
  · simp only [hprogress, hsome, Option.bind_some]
    -- A record that is read to its end may still lack a field.
    cases shape.finish progress.draft with
    | error name => exact Finds.error _
    | ok a => exact Finds.some_iff.mpr rfl

/-- What the items of a list make of a shape. -/
def inOrder? (shape : Shape σ α) (depth : Nat) (items : List (Item Form)) : Option α :=
  (listed? (shape.fields depth) shape.blank items).bind fun draft => (shape.finish draft).toOption

theorem scanListed_eq_ok {s rest : List Char} {a : α} :
    scanListed shape depth s = .ok (a, rest) ↔ ∃ draft,
      scanInOrder (shape.fields depth) true shape.blank s = .ok (draft, rest) ∧
        (shape.finish draft).toOption = some a := by
  unfold scanListed
  cases scanInOrder (shape.fields depth) true shape.blank s with
  | error e => simp only [reduceCtorEq, false_and, exists_false]
  | ok found =>
      rcases found with ⟨draft, u⟩
      simp only [Except.ok.injEq, Prod.mk.injEq, and_assoc, exists_eq_left']
      cases shape.finish draft with
      | error name => simp only [Except.toOption, reduceCtorEq, and_false]
      | ok b =>
          simp only [Except.toOption, Except.ok.injEq, Prod.mk.injEq, Option.some.injEq, and_comm]

theorem finds_scanListed (hfields : ∀ field ∈ shape.fields depth, Settled field.reader)
    (opening : Gap) (items : List (Item Form)) (t : List Char) :
    Finds (enclosed closeList (scanListed shape depth (opening.chars ++
        (Value.separated (items.map Form.itemText) ++ listEnd :: t))))
      (inOrder? shape depth items) t := by
  have hscan := Finds.iff_ok.mp (finds_scanInOrder hfields opening items shape.blank t)
  refine Finds.iff_ok.mpr ?_
  intro a u
  rw [inOrder?, Option.bind_eq_some_iff, enclosed_eq_ok]
  constructor
  -- Whether the list is closed does not depend on whether the draft is complete.
  · rintro ⟨rest, hlisted, hclose⟩
    rcases scanListed_eq_ok.mp hlisted with ⟨draft, hdraft, hfinish⟩
    have hfound := (hscan draft u).mp (enclosed_eq_ok.mpr ⟨rest, hdraft, hclose⟩)
    exact ⟨⟨draft, hfound.1, hfinish⟩, hfound.2⟩
  · rintro ⟨⟨draft, hfound, hfinish⟩, hu⟩
    rcases enclosed_eq_ok.mp ((hscan draft u).mpr ⟨hfound, hu⟩) with ⟨rest, hdraft, hclose⟩
    exact ⟨rest, scanListed_eq_ok.mpr ⟨draft, hdraft, hfinish⟩, hclose⟩

theorem finds_shape_record (hfields : ∀ field ∈ shape.fields depth, Settled field.reader)
    (opening : Gap) (entries : List (Entry Form)) (t : List Char) :
    Finds ((Reader.shape (depth + 1) shape).run ((Form.record opening entries).text ++ t))
      (named? shape depth entries) t := by
  rw [recordText_append, Reader.shape, run_ofStart (by decide), if_pos rfl]
  exact finds_enclosed (closeRecord_recordEnd t) (finds_scanNamed hfields opening entries t)

/-- A record with known fields is settled if its fields are, written either
    way. -/
theorem settled_shape (hfields : ∀ d, ∀ field ∈ shape.fields d, Settled field.reader) :
    Settled (Reader.shape depth shape) := by
  refine .of_finds skips_ofStart ?_
  intro form
  -- A record or a list costs one level of depth, and there may be none left.
  by_cases hrecord : ∃ opening entries, form = .record opening entries
  · rcases hrecord with ⟨opening, entries, rfl⟩
    cases depth with
    | zero => exact ⟨none, fun t _ => Finds.error _⟩
    | succ depth =>
        exact ⟨_, fun t _ => finds_shape_record (hfields depth) opening entries t⟩
  by_cases hlist : ∃ opening items, form = .list opening items
  · rcases hlist with ⟨opening, items, rfl⟩
    cases depth with
    | zero => exact ⟨none, fun t _ => Finds.error _⟩
    | succ depth =>
        refine ⟨inOrder? shape depth items, ?_⟩
        intro t _
        rw [listText_append, Reader.shape, run_ofStart (by decide), if_neg (by decide), if_pos rfl]
        exact finds_scanListed (hfields depth) opening items t
  -- Any other form is refused by how it starts.
  · refine ⟨none, fun t _ => finds_ofStart ?_⟩
    intro c r _ hopener
    rw [if_neg fun hc : c = '\x7b' => hrecord (Form.eq_record (hc ▸ hopener)),
      if_neg fun hc : c = '[' => hlist (Form.eq_list (hc ▸ hopener))]
    exact finds_reject _ _ _

end Shapes

end Json

end DashKit
