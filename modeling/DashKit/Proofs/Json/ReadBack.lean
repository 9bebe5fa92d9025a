import DashKit.Proofs.Json.Records
import DashKit.Proofs.Json.Written

/-!
# Reading What Was Written

Readers undo the writing of values.

`Reads` says that a reader finds a value at the front of a text and leaves
what stands behind it, as long as that does not continue a number. In
brackets, what stands behind an item begins with a comma or with the closing
bracket, and both end a number.

The entries of a record are read as changes to what the entries before them
amount to. `Filled` is a chain of such changes, and a record is read back as
soon as there is one from the blank draft to the value's own. For a record
with known fields it comes from a chain between the fields and their values in
order, `Matched`, since fields with different names do not get in each other's
way.

## Main definitions

* `Reads`: A reader finds a value that was written.
* `Opened`: A text that begins with a quote or a bracket.
* `Filled`, `Matched`: Entries that amount to a change of a draft.

## Theorems

* `reads_text`, `reads_word32`, `reads_member`: Plain values.
* `reads_list`, `reads_pair`: Lists of any length and of two.
* `scanEntries_write`, `reads_shape`: Records.
-/

namespace DashKit

namespace Json

/-- A reader finds a value that was written, whatever ends a number behind
    it. -/
def Reads {α : Type} (reader : Reader α) (w : List Char) (a : α) : Prop :=
  ∀ t, EndsNumber t → reader.run (w ++ t) = .ok (a, t)

/-- A text that begins with a quote or a bracket. -/
def Opened (w : List Char) : Prop :=
  ∃ c r, w = c :: r ∧ (c = '"' ∨ c = '[' ∨ c = '\x7b')

theorem Opened.afterGap {w : List Char} (h : Opened w) (t : List Char) :
    afterGap (w ++ t) = w ++ t := by
  rcases h with ⟨c, r, rfl, rfl | rfl | rfl⟩ <;> rfl

theorem opened_writeText (s : List Char) : Opened (writeText s) :=
  ⟨'"', s.flatMap writeChar ++ ['"'], rfl, Or.inl rfl⟩

theorem writeText_append (s t : List Char) :
    writeText s ++ t = '"' :: (s.flatMap writeChar ++ '"' :: t) := by
  simp only [writeText, List.cons_append, List.append_assoc, List.nil_append]

/-- A reader that is given no gap goes straight to its body. -/
theorem run_ofStart {α : Type} {body : Char → List Char → Outcome α}
    {law : ∀ {c r a rest}, body c r = .ok (a, rest) → rest.length ≤ r.length} {c : Char}
    (hc : isGap c = false) (s : List Char) :
    (Reader.ofStart body @law).run (c :: s) = body c s := by
  have hgap : afterGap (c :: s) = c :: s := by
    rw [afterGap, List.dropWhile_cons, hc]
    rfl
  simp only [Reader.ofStart, hgap]

section Plain

variable {α β : Type} {reader : Reader α} {w : List Char} {a : α}

theorem Reads.map (h : Reads reader w a) (f : α → β) : Reads (reader.map f) w (f a) := by
  intro t ht
  simp only [Reader.map, h t ht]

theorem reads_truth (flag : Bool) : Reads .truth (Value.truth flag).write flag := by
  intro t _
  cases flag <;> rfl

theorem reads_quoted {expected : String} {accept : String → Except Cause α} {s : String}
    (h : accept s = .ok a) : Reads (.quoted expected accept) (writeText s.toList) a := by
  intro t _
  -- Between its quotes the text has escapes, and they are read back as what they stand for.
  rw [writeText_append]
  refine (run_ofStart (by decide) _).trans ?_
  simp only [if_true, scanText_write, String.ofList_toList, h]

theorem reads_text (s : String) : Reads .text (writeText s.toList) s :=
  reads_quoted rfl

theorem reads_char (c : Char) : Reads .char (writeText (String.singleton c).toList) c := by
  refine reads_quoted ?_
  rw [String.toList_singleton]

theorem reads_word32 (n : UInt32) :
    Reads .word32 (Value.number (.natural n.toNat)).write n := by
  intro t ht
  -- A number of thirty-two bits fits into sixty-four.
  have hlt : n.toNat < UInt32.size := n.toNat_lt
  have hscan := scanNumber_write (Nat.lt_trans hlt (by decide)) ht
  rcases toList_text_natural n.toNat with ⟨c, r, htext, _, hc⟩
  -- The text begins with a digit, which is no blank, and so a number begins there.
  have hgap : isGap c = false := by
    rw [Bool.eq_false_iff]
    intro hg
    simp only [isGap, Bool.or_eq_true, beq_iff_eq] at hg
    rcases hg with ((rfl | rfl) | rfl) | rfl <;> exact absurd hc (by decide)
  have hstart : startsNumber c = true := by
    rw [startsNumber, hc, Bool.or_true]
  rw [htext, List.cons_append] at hscan
  rw [Value.write, htext, List.cons_append]
  refine (run_ofStart hgap _).trans ?_
  have hn : n.toNat.toUInt32 = n := UInt32.ofNat_toNat
  simp only [hstart, if_true, hscan, if_pos hlt, hn]

theorem reads_member {α : Type} {depth : Nat} {members : List α} {word : α → String} {a : α}
    (ha : a ∈ members) (hword : ∀ b ∈ members, word b = word a → b = a) :
    Reads (.member depth (members.map fun b => (word b, b))) (writeText (word a).toList) a := by
  intro t _
  rw [writeText_append]
  refine (run_ofStart (by decide) _).trans ?_
  have hfind : ((members.map fun b => (word b, b)).find? fun member => member.1 == word a) =
      some (word a, a) := by
    rw [List.find?_map]
    cases hf : members.find? ((fun member => member.1 == word a) ∘ fun b => (word b, b)) with
    | none =>
        have hmissed := List.find?_eq_none.mp hf a ha
        rw [Function.comp_apply, beq_self_eq_true] at hmissed
        exact absurd rfl hmissed
    -- Whatever was found has the same word, so it is the same member.
    | some b =>
        have hb := List.find?_some hf
        rw [Function.comp_apply, beq_iff_eq] at hb
        rw [hword b (List.mem_of_find?_eq_some hf) hb, Option.map_some]
  simp only [if_true, scanMember, scanText_write, String.ofList_toList, hfind]

theorem reads_none : Reads reader.optional Value.null.write none := by
  intro t _
  rfl

/-- What is opened is not taken for the word of what is missing. -/
theorem reads_some (hw : Opened w) (h : Reads reader w a) : Reads reader.optional w (some a) := by
  intro t ht
  have hgap := hw.afterGap t
  have hmap := h.map some t ht
  rcases hw with ⟨c, r, rfl, hc⟩
  -- A quote or a bracket is no letter.
  have hn : c ≠ 'n' := by rcases hc with rfl | rfl | rfl <;> decide
  rw [Reader.run_optional_of_ne reader hgap hn]
  exact hmap

end Plain

theorem endsNumber_comma (t : List Char) : EndsNumber (',' :: t) :=
  .of_head (by decide) (by decide) (by decide) (by decide)

theorem endsNumber_listEnd (t : List Char) : EndsNumber (listEnd :: t) :=
  .of_head (by decide) (by decide) (by decide) (by decide)

theorem endsNumber_recordEnd (t : List Char) : EndsNumber (recordEnd :: t) :=
  .of_head (by decide) (by decide) (by decide) (by decide)

/-- What stands behind one of several parts ends a number: a comma, or what
    stands behind all of them. -/
theorem endsNumber_parts (ws : List (List Char)) {t : List Char} (ht : EndsNumber t) :
    EndsNumber (ws.flatMap (fun w => ',' :: w) ++ t) := by
  cases ws with
  | nil => exact ht
  | cons w ws => exact endsNumber_comma _

theorem separated_cons (w : List Char) (ws : List (List Char)) :
    Value.separated (w :: ws) = w ++ ws.flatMap fun v => ',' :: v := by
  induction ws generalizing w with
  | nil => rw [Value.separated, List.flatMap_nil, List.append_nil]
  | cons v ws ih =>
      -- A separator stands in front of every part but the first.
      rw [Value.separated, ih v, List.flatMap_cons, List.cons_append]
      exact List.cons_ne_nil _ _

theorem writeItems_eq_map (items : List Value) :
    Value.writeItems items = items.map Value.write := by
  induction items with
  | nil => rfl
  | cons item items ih => rw [Value.writeItems, ih, List.map_cons]

theorem writeMembers_eq_map (members : List (String × Value)) :
    Value.writeMembers members = members.map Value.writeMember := by
  induction members with
  | nil => rfl
  | cons member members ih => rw [Value.writeMembers, ih, List.map_cons]

section Lists

variable {α β : Type}

theorem nextItem_first {w : List Char} (hw : Opened w) (t : List Char) :
    nextItem true (w ++ t) = .ok (true, w ++ t) := by
  have hgap := hw.afterGap t
  rcases hw with ⟨c, r, rfl, hc⟩
  have hend : c ≠ listEnd := by rcases hc with rfl | rfl | rfl <;> decide
  rw [List.cons_append] at hgap ⊢
  simp only [nextItem, hgap, if_neg hend, if_true]

theorem nextItem_later {w : List Char} (hw : Opened w) (t : List Char) :
    nextItem false (',' :: (w ++ t)) = .ok (true, w ++ t) := by
  have hgap := hw.afterGap t
  have hcomma : afterGap (',' :: (w ++ t)) = ',' :: (w ++ t) := rfl
  have hne : ',' ≠ listEnd := by decide
  rcases hw with ⟨c, r, rfl, hc⟩
  have hend : c ≠ listEnd := by rcases hc with rfl | rfl | rfl <;> decide
  rw [List.cons_append] at hgap hcomma ⊢
  simp only [nextItem, hcomma, hgap, if_neg hne, if_neg hend, Bool.false_eq_true, if_false, if_true]

theorem scanItem_listEnd (reader : Reader α) (first : Bool) (t : List Char) :
    scanItem reader first (listEnd :: t) = .ok (none, listEnd :: t) := by
  have hgap : afterGap (listEnd :: t) = listEnd :: t := rfl
  simp only [scanItem, nextItem, hgap, if_true]

theorem scanItem_first {reader : Reader α} {w : List Char} {a : α} (hw : Opened w)
    (h : Reads reader w a) {t : List Char} (ht : EndsNumber t) :
    scanItem reader true (w ++ t) = .ok (some a, t) := by
  simp only [scanItem, nextItem_first hw t, h t ht]

theorem scanItem_later {reader : Reader α} {w : List Char} {a : α} (hw : Opened w)
    (h : Reads reader w a) {t : List Char} (ht : EndsNumber t) :
    scanItem reader false (',' :: (w ++ t)) = .ok (some a, t) := by
  simp only [scanItem, nextItem_later hw t, h t ht]

variable {reader : Reader α} {write : α → List Char}

theorem scanItems_later {items : List α} (hopened : ∀ a ∈ items, Opened (write a))
    (hreads : ∀ a ∈ items, Reads reader (write a) a) (t : List Char) :
    scanItems reader false ((items.map write).flatMap (fun w => ',' :: w) ++ listEnd :: t) =
      .ok (items, listEnd :: t) := by
  induction items with
  | nil => rw [List.map_nil, List.flatMap_nil, List.nil_append, scanItems, scanItem_listEnd]
  | cons a items ih =>
      -- What stands behind an item ends a number, in case the item is one.
      have ha := scanItem_later (hopened a List.mem_cons_self) (hreads a List.mem_cons_self)
        (endsNumber_parts (items.map write) (endsNumber_listEnd t))
      have hrest := ih (fun b hb => hopened b (List.mem_cons_of_mem _ hb))
        (fun b hb => hreads b (List.mem_cons_of_mem _ hb))
      rw [List.map_cons, List.flatMap_cons, List.cons_append, List.cons_append, List.append_assoc,
        scanItems, ha]
      exact consItem_eq_ok.2 ⟨items, hrest, rfl⟩

/-- The items of a list are read back up to its bracket. -/
theorem scanItems_write {items : List α} (hopened : ∀ a ∈ items, Opened (write a))
    (hreads : ∀ a ∈ items, Reads reader (write a) a) (t : List Char) :
    scanItems reader true (Value.separated (items.map write) ++ listEnd :: t) =
      .ok (items, listEnd :: t) := by
  cases items with
  | nil => rw [List.map_nil, Value.separated, List.nil_append, scanItems, scanItem_listEnd]
  | cons a items =>
      have ha := scanItem_first (hopened a List.mem_cons_self) (hreads a List.mem_cons_self)
        (endsNumber_parts (items.map write) (endsNumber_listEnd t))
      have hrest := scanItems_later (fun b hb => hopened b (List.mem_cons_of_mem _ hb))
        (fun b hb => hreads b (List.mem_cons_of_mem _ hb)) t
      rw [List.map_cons, separated_cons, List.append_assoc, scanItems, ha]
      exact consItem_eq_ok.2 ⟨items, hrest, rfl⟩

theorem closeList_listEnd (t : List Char) : closeList (listEnd :: t) = (none, t) := by
  have hgap : afterGap (listEnd :: t) = listEnd :: t := rfl
  simp only [closeList, hgap, if_true]

theorem reads_list {depth : Nat} {item : Nat → Reader α} {value : α → Value} {items : List α}
    (hopened : ∀ a ∈ items, Opened (value a).write)
    (hreads : ∀ a ∈ items, Reads (item depth) (value a).write a) :
    Reads (.list (depth + 1) item) (Value.list (items.map value)).write items := by
  intro t _
  have hscan := scanItems_write hopened hreads t
  rw [Value.write, writeItems_eq_map, List.map_map, List.cons_append, List.cons_append,
    List.append_assoc, List.cons_append, List.nil_append]
  refine (run_ofStart (by decide) _).trans ?_
  rw [if_pos rfl]
  exact enclosed_eq_ok.2 ⟨listEnd :: t, hscan, closeList_listEnd t⟩

theorem reads_pair {depth : Nat} {one : Nat → Reader α} {other : Nat → Reader β}
    {v w : Value} {a : α} {b : β} (hv : Opened v.write) (hw : Opened w.write)
    (ha : Reads (one depth) v.write a) (hb : Reads (other depth) w.write b) :
    Reads (.pair (depth + 1) one other) (Value.list [v, w]).write (a, b) := by
  intro t _
  have hfirst := scanItem_first hv ha (endsNumber_comma (w.write ++ listEnd :: t))
  -- Two items, with a comma between them and the bracket behind.
  have hlater := scanItem_later hw hb (endsNumber_listEnd t)
  have hscan : Reader.scanPair (one depth) (other depth)
      (v.write ++ ',' :: (w.write ++ listEnd :: t)) = .ok ((a, b), listEnd :: t) := by
    simp only [Reader.scanPair, hfirst, hlater]
  have hwrite : (Value.list [v, w]).write ++ t =
      '[' :: (v.write ++ ',' :: (w.write ++ listEnd :: t)) := by
    simp only [Value.write, Value.writeItems, Value.separated, List.cons_append,
      List.append_assoc, List.nil_append]
  rw [hwrite]
  refine (run_ofStart (by decide) _).trans ?_
  rw [if_pos rfl]
  exact enclosed_eq_ok.2 ⟨listEnd :: t, hscan, closeList_listEnd t⟩

end Lists

section Entries

variable {β : Type} {pick : β → String → Except Cause (Reader (β → β))}

/-- The entries of a record, as they are read one after the other, change a
    draft into another. -/
inductive Filled (pick : β → String → Except Cause (Reader (β → β))) :
    List (String × Value) → β → β → Prop
  | nil (b : β) : Filled pick [] b b
  | cons {key : String} {value : Value} {members : List (String × Value)} {b result : β}
      {reader : Reader (β → β)} {change : β → β} (hpick : pick b key = .ok reader)
      (hreads : Reads reader value.write change) (hrest : Filled pick members (change b) result) :
      Filled pick ((key, value) :: members) b result

theorem scanKeyText_writeText (key : String) (t : List Char) :
    scanKeyText (writeText key.toList ++ t) = .ok (some key, t) := by
  rw [writeText_append]
  simp only [scanKeyText, scanText_write, String.ofList_toList]

theorem scanKey_first (key : String) (t : List Char) :
    scanKey true (writeText key.toList ++ t) = .ok (some key, t) := by
  have htext := scanKeyText_writeText key t
  rw [writeText_append] at htext ⊢
  have hgap : afterGap ('"' :: (key.toList.flatMap writeChar ++ '"' :: t)) =
      '"' :: (key.toList.flatMap writeChar ++ '"' :: t) := rfl
  have hend : '"' ≠ recordEnd := by decide
  simp only [scanKey, hgap, if_neg hend, if_true, htext]

theorem scanKey_later (key : String) (t : List Char) :
    scanKey false (',' :: (writeText key.toList ++ t)) = .ok (some key, t) := by
  have htext := scanKeyText_writeText key t
  rw [writeText_append] at htext ⊢
  have hcomma : afterGap (',' :: '"' :: (key.toList.flatMap writeChar ++ '"' :: t)) =
      ',' :: '"' :: (key.toList.flatMap writeChar ++ '"' :: t) := rfl
  have hgap : afterGap ('"' :: (key.toList.flatMap writeChar ++ '"' :: t)) =
      '"' :: (key.toList.flatMap writeChar ++ '"' :: t) := rfl
  have hend : '"' ≠ recordEnd := by decide
  have hne : ',' ≠ recordEnd := by decide
  simp only [scanKey, hcomma, hgap, if_neg hend, if_neg hne, Bool.false_eq_true, if_false, if_true,
    htext]

theorem scanKey_recordEnd (first : Bool) (t : List Char) :
    scanKey first (recordEnd :: t) = .ok (none, recordEnd :: t) := by
  have hgap : afterGap (recordEnd :: t) = recordEnd :: t := rfl
  simp only [scanKey, hgap, if_true]

theorem scanEntry_of_key {α : Type} {pick : String → Except Cause (Reader α)} {first : Bool}
    {s : List Char} {key : String} {value : Value} {reader : Reader α} {a : α} {t : List Char}
    (hkey : scanKey first s = .ok (some key, ':' :: (value.write ++ t)))
    (hpick : pick key = .ok reader) (hreads : Reads reader value.write a) (ht : EndsNumber t) :
    scanEntry pick first s = .ok (some a, t) := by
  have hcolon : scanColon (':' :: (value.write ++ t)) = .ok (value.write ++ t) := rfl
  simp only [scanEntry, hkey, hpick, hcolon, hreads t ht]

theorem writeMember_append (key : String) (value : Value) (t : List Char) :
    Value.writeMember (key, value) ++ t =
      writeText key.toList ++ ':' :: (value.write ++ t) := by
  rw [Value.writeMember, List.append_assoc, List.cons_append]

theorem scanEntries_later {members : List (String × Value)} {b result : β}
    (h : Filled pick members b result) (t : List Char) :
    scanEntries pick false b
        ((members.map Value.writeMember).flatMap (fun w => ',' :: w) ++ recordEnd :: t) =
      .ok (result, recordEnd :: t) := by
  -- One step for each entry, as the draft changes from entry to entry.
  induction h with
  | nil b =>
      rw [List.map_nil, List.flatMap_nil, List.nil_append, scanEntries, scanEntry,
        scanKey_recordEnd]
  | @cons key value members b result reader change hpick hreads hrest ih =>
      rw [List.map_cons, List.flatMap_cons, List.cons_append, List.cons_append, List.append_assoc,
        writeMember_append, scanEntries,
        scanEntry_of_key (scanKey_later key _) hpick hreads
          (endsNumber_parts _ (endsNumber_recordEnd t))]
      exact ih

/-- The entries of a record are read back up to its bracket. -/
theorem scanEntries_write {members : List (String × Value)} {b result : β}
    (h : Filled pick members b result) (t : List Char) :
    scanEntries pick true b
        (Value.separated (members.map Value.writeMember) ++ recordEnd :: t) =
      .ok (result, recordEnd :: t) := by
  cases h with
  | nil =>
      rw [List.map_nil, Value.separated, List.nil_append, scanEntries, scanEntry,
        scanKey_recordEnd]
  | @cons key value members b result reader change hpick hreads hrest =>
      rw [List.map_cons, separated_cons, List.append_assoc, writeMember_append, scanEntries,
        scanEntry_of_key (scanKey_first key _) hpick hreads
          (endsNumber_parts _ (endsNumber_recordEnd t))]
      exact scanEntries_later hrest t

theorem closeRecord_recordEnd (t : List Char) : closeRecord (recordEnd :: t) = (none, t) := by
  have hgap : afterGap (recordEnd :: t) = recordEnd :: t := rfl
  simp only [closeRecord, hgap, if_true]

end Entries

section Shapes

variable {σ α : Type} {fields : List (Field σ)} {members : List (String × Value)}

/-- The values of some fields, in their order, change a draft into another. -/
inductive Matched : List (Field σ) → List (String × Value) → σ → σ → Prop
  | nil (draft : σ) : Matched [] [] draft draft
  | cons {field : Field σ} {value : Value} {fields : List (Field σ)}
      {members : List (String × Value)} {draft result : σ} {change : σ → σ}
      (hreads : Reads field.reader value.write change)
      (hrest : Matched fields members (change draft) result) :
      Matched (field :: fields) ((field.name, value) :: members) draft result

theorem find?_name {field : Field σ} (hnames : (fields.map Field.name).Nodup)
    (hf : field ∈ fields) : (fields.find? fun other => other.name == field.name) = some field := by
  induction fields with
  | nil => exact absurd hf List.not_mem_nil
  | cons other fields ih =>
      rw [List.map_cons, List.nodup_cons] at hnames
      rw [List.find?_cons]
      rcases List.mem_cons.mp hf with rfl | hf
      · rw [beq_self_eq_true]
      -- Names are distinct, so the search passes every other field.
      · have hne : other.name ≠ field.name := by
          intro heq
          exact hnames.1 (heq ▸ List.mem_map_of_mem hf)
        rw [beq_eq_false_iff_ne.mpr hne]
        exact ih hnames.2 hf

/-- Fields in their order are entries that are picked by their names: none of
    them was seen before. -/
theorem Matched.filled {all : List (Field σ)} {draft result : σ} {seen : List String}
    (h : Matched fields members draft result) (hnames : (fields.map Field.name).Nodup)
    (hall : ∀ field ∈ fields, (all.find? fun other => other.name == field.name) = some field)
    (hseen : ∀ field ∈ fields, field.name ∉ seen) :
    ∃ others, Filled (pickField all) members ⟨seen, draft⟩ ⟨others, result⟩ := by
  induction h generalizing seen with
  | nil draft => exact ⟨seen, .nil _⟩
  | @cons field value fields members draft result change hreads hrest ih =>
      rw [List.map_cons, List.nodup_cons] at hnames
      have hpick : pickField all ⟨seen, draft⟩ field.name =
          .ok (field.reader.map fun change p => ⟨field.name :: p.seen, change p.draft⟩) := by
        simp only [pickField, hall field List.mem_cons_self,
          if_neg (hseen field List.mem_cons_self)]
      -- The other fields have names of their own, so they stay unseen.
      have hnew : ∀ other ∈ fields, other.name ∉ field.name :: seen := by
        intro other ho hm
        rcases List.mem_cons.mp hm with heq | hm
        · exact hnames.1 (heq ▸ List.mem_map_of_mem ho)
        · exact hseen other (List.mem_cons_of_mem _ ho) hm
      rcases ih hnames.2 (fun other ho => hall other (List.mem_cons_of_mem _ ho)) hnew with
        ⟨others, hfilled⟩
      exact ⟨others, .cons hpick (hreads.map _) hfilled⟩

/-- A record is read back if its fields in order make up a draft that is
    complete. -/
theorem reads_shape {shape : Shape σ α} {depth : Nat} {draft : σ} {a : α}
    (hnames : ((shape.fields depth).map Field.name).Nodup)
    (hmatched : Matched (shape.fields depth) members shape.blank draft)
    (hfinish : shape.finish draft = .ok a) :
    Reads (.shape (depth + 1) shape) (Value.record members).write a := by
  intro t _
  rcases hmatched.filled hnames (fun field hf => find?_name hnames hf)
    (fun field _ => List.not_mem_nil) with ⟨seen, hfilled⟩
  have hnamed : scanNamed shape depth
      (Value.separated (members.map Value.writeMember) ++ recordEnd :: t) =
        .ok (a, recordEnd :: t) := by
    simp only [scanNamed, scanEntries_write hfilled t, hfinish]
  rw [Value.write, writeMembers_eq_map, List.cons_append, List.cons_append,
    List.append_assoc, List.cons_append, List.nil_append]
  refine (run_ofStart (by decide) _).trans ?_
  rw [if_pos rfl]
  exact enclosed_eq_ok.2 ⟨recordEnd :: t, hnamed, closeRecord_recordEnd t⟩

end Shapes

namespace Value

theorem reads_text (depth : Nat) (s : String) : Reads (reader depth) (text s).write (text s) := by
  intro t _
  have hstart : startsNumber '"' = false := by decide
  have hover : ∀ inner, (readerOver inner).run
      ('"' :: (s.toList.flatMap writeChar ++ '"' :: t)) = .ok (text s, t) := by
    intro inner
    refine (run_ofStart (by decide) _).trans ?_
    simp only [Char.reduceEq, if_false, hstart, Bool.false_eq_true, if_true, scanText_write,
      String.ofList_toList]
  rw [write, writeText_append]
  cases depth <;> exact hover _

/-- The entries of a record of any values are kept in their order. -/
theorem filled_members {inner : Reader Value} {members : List (String × Value)}
    (h : ∀ member ∈ members, Reads inner member.2.write member.2)
    (before : List (String × Value)) :
    Filled (keep inner) members before (before ++ members) := by
  induction members generalizing before with
  | nil =>
      rw [List.append_nil]
      exact .nil _
  | cons member members ih =>
      have hrest := ih (fun other ho => h other (List.mem_cons_of_mem _ ho)) (before ++ [member])
      rw [List.append_assoc] at hrest
      exact .cons rfl ((h member List.mem_cons_self).map _) hrest

theorem reads_record {depth : Nat} {members : List (String × Value)}
    (h : ∀ member ∈ members, Reads (reader depth) member.2.write member.2) :
    Reads (reader (depth + 1)) (record members).write (record members) := by
  intro t _
  have hstart : startsNumber '\x7b' = false := by decide
  have hscan := scanEntries_write (filled_members h []) t
  have henclosed := enclosed_eq_ok.2 ⟨_, hscan, closeRecord_recordEnd t⟩
  unfold keep at henclosed
  rw [write, writeMembers_eq_map, List.cons_append, List.cons_append, List.append_assoc,
    List.cons_append, List.nil_append, reader]
  refine (run_ofStart (by decide) _).trans ?_
  simp only [Char.reduceEq, if_false, hstart, Bool.false_eq_true, if_true, henclosed,
    List.nil_append]

end Value

end Json

end DashKit
