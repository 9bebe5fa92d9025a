import DashKit.Proofs.Codec.Layout
import DashKit.Proofs.Json.Records

/-!
# Forms as Trees

What the reader of any value makes of a text, and of which texts it makes
nothing.

A value whose shape is not known beforehand is read as a tree first and looked
at afterwards. So there are two questions, and only the second one depends on
what is looked for. This module answers the first. A form has one tree, with
its items and its entries in their order, and the entries under what their keys
spell. It has none in three cases only: too many brackets are open at once,
there is a number too large to be kept, or half a character stands alone in a
string or a key. One such part anywhere is enough.

Whether a number is too large is not the same as whether it is larger than all
doubles. Its digits and its power of ten are rounded each for itself, and only
then multiplied. Next to the greatest double the rounding can carry the product
over the edge (`edgeNumber`).

The reader for so many brackets is made from the reader for one less, so the
proofs are by induction on that number. Which forms have a tree is then shown by
induction on forms.

## Main definitions

* `Form.tree?`: The tree that a form stands for.
* `Form.Nests`: No more than so many brackets are open at once.
* `Form.Sound`: What is asked of the strings and the numbers of a form.
* `NumberForm.IsKept`: A number that is not too large.
* `NumberForm.InRange`: A number that the greatest double reaches.

## Theorems

* `finds_scanItems`: The items of a list are read one by one.
* `finds_tree`, `settled_value`: The tree of a form is found wherever it stands.
* `tree?_ne_none`: Which forms have a tree.
* `edgeNumber_not_kept`: A number can be in range and yet be too large.
-/

namespace DashKit

namespace Json

variable {α β : Type}

/-! ### Items -/

theorem finds_consItem {a : α} {read : Outcome (List α)} {found : Option (List α)}
    {t : List Char} (h : Finds read found t) :
    Finds (consItem a read) (found.map (a :: ·)) t := by
  rcases h.split with ⟨rfl, e, rfl⟩ | ⟨items, rfl, rfl⟩
  · exact Finds.error e
  · exact Finds.some_iff.mpr rfl

theorem mapM_cons (f : β → Option α) (b : β) (bs : List β) :
    (b :: bs).mapM f = (f b).bind fun a => (bs.mapM f).map (a :: ·) := by
  rw [List.mapM_cons]
  cases f b with
  | none => rfl
  | some a => cases bs.mapM f <;> rfl

/-- What is read in the items of a list, one by one. -/
def items? (read : Form → Option α) (items : List (Item Form)) : Option (List α) :=
  items.mapM fun item => read item.value

theorem finds_scanItems_later {reader : Reader α} (h : Settled reader) (items : List (Item Form))
    (gap : Gap) (t : List Char) :
    Finds (scanItems reader false
        (gap.chars ++ laterText (items.map Form.itemText) (listEnd :: t)))
      (items? (fun form => reader.value? form.text) items) (listEnd :: t) := by
  induction items generalizing gap with
  | nil =>
      rw [List.map_nil, laterText, List.flatMap_nil, List.nil_append, scanItems, scanItem,
        nextItem_end]
      exact Finds.some_iff.mpr rfl
  -- A comma, the item behind it, and then the gap that the next comma comes after.
  | cons item items ih =>
      have hends := endsNumber_parts (items.map Form.itemText) (endsNumber_listEnd t)
      have hnext := nextItem_comma gap item.before item.value
        (item.after.chars ++ laterText (items.map Form.itemText) (listEnd :: t))
      rw [List.map_cons, laterText, List.flatMap_cons, List.cons_append, List.cons_append,
        List.append_assoc, itemText_append, scanItems, items?, mapM_cons]
      rcases finds_scanItem h hnext hends with ⟨a, ha, hvalue⟩ | ⟨⟨e, he⟩, hvalue⟩
      · rw [ha, hvalue]
        exact finds_consItem (ih item.after)
      · rw [he, hvalue]
        exact Finds.error e

/-- The items of a list are read one by one up to its bracket. -/
theorem finds_scanItems {reader : Reader α} (h : Settled reader) (opening : Gap)
    (items : List (Item Form)) (t : List Char) :
    Finds (scanItems reader true (opening.chars ++
        (Value.separated (items.map Form.itemText) ++ listEnd :: t)))
      (items? (fun form => reader.value? form.text) items) (listEnd :: t) := by
  cases items with
  | nil =>
      rw [List.map_nil, Value.separated, List.nil_append, scanItems, scanItem, nextItem_end]
      exact Finds.some_iff.mpr rfl
  -- Only the first item has no comma in front of it.
  | cons item items =>
      have hends := endsNumber_parts (items.map Form.itemText) (endsNumber_listEnd t)
      have hnext := nextItem_opening opening item.before item.value
        (item.after.chars ++ laterText (items.map Form.itemText) (listEnd :: t))
      rw [List.map_cons, separated_cons, List.append_assoc, itemText_append, scanItems,
        items?, mapM_cons]
      rcases finds_scanItem h hnext hends with ⟨a, ha, hvalue⟩ | ⟨⟨e, he⟩, hvalue⟩
      · rw [ha, hvalue]
        exact finds_consItem (finds_scanItems_later h items item.after t)
      · rw [he, hvalue]
        exact Finds.error e

/-! ### Members -/

/-- What is read in an entry, with its name. -/
def Entry.member? (read : Form → Option α) (entry : Entry Form) : Option (String × α) :=
  entry.name?.bind fun name => (read entry.value).map (name, ·)

/-- What is read in the entries of a record, one by one. -/
def members? (read : Form → Option α) (entries : List (Entry Form)) :
    Option (List (String × α)) :=
  entries.mapM (Entry.member? read)

theorem keep_settled {reader : Reader Value} (h : Settled reader)
    (members : List (String × Value)) (key : String) (picked)
    (hpick : Value.keep reader members key = .ok picked) : Settled picked := by
  -- Every key is kept, so there is always a reader, and it is the same for all.
  rw [Value.keep, Except.ok.injEq] at hpick
  rw [← hpick]
  exact h.map _

theorem fill_keep (reader : Reader Value) (members : List (String × Value))
    (entry : Entry Form) :
    fill (Value.keep reader) members entry =
      (entry.member? fun form => reader.value? form.text).map fun member =>
        members ++ [member] := by
  unfold fill Entry.member? Entry.name? Value.keep
  cases spelling? entry.key with
  | none => rfl
  | some key =>
      simp only [Except.toOption, Option.bind_some, Option.map_some, value?_map, Option.map_map]
      rfl

/-- The entries of a record are kept one behind the other. -/
theorem foldlM_keep (reader : Reader Value) (entries : List (Entry Form))
    (members : List (String × Value)) :
    entries.foldlM (fill (Value.keep reader)) members =
      (members? (fun form => reader.value? form.text) entries).map (members ++ ·) := by
  induction entries generalizing members with
  | nil =>
      rw [List.foldlM_nil, members?, List.mapM_nil]
      simp only [Option.pure_def, Option.map_some, List.append_nil]
  | cons entry entries ih =>
      rw [List.foldlM_cons, fill_keep, members?, mapM_cons]
      cases entry.member? fun form => reader.value? form.text with
      | none => rfl
      | some member =>
          simp only [Option.map_some, Option.bind_some, Option.bind_eq_bind]
          rw [ih, members?, Option.map_map]
          -- The member goes to the end of what was kept before and to the front of what comes.
          have hassoc : (fun more => members ++ [member] ++ more) =
              (members ++ ·) ∘ (member :: ·) := by
            funext more
            rw [List.append_assoc, List.singleton_append, Function.comp_apply]
          rw [hassoc]

/-! ### Trees -/

/-- The tree that a form stands for, if no more than so many brackets are open
    at once. -/
def Form.tree? : Nat → Form → Option Value
  | _, .null => some .null
  | _, .truth value => some (.truth value)
  | _, .number token => (token.literal.value []).toOption.map .number
  | _, .quoted pieces => (spelling? pieces).map fun text => .text (String.ofList text)
  | 0, .list _ _ => none
  | 0, .record _ _ => none
  | depth + 1, .list _ items => (items? (tree? depth) items).map .list
  | depth + 1, .record _ entries => (members? (tree? depth) entries).map .record

section Readers

variable (inner : Option (Reader Value))

theorem finds_tree_number (token : NumberForm) {t : List Char} (ht : EndsNumber t) :
    Finds ((Value.readerOver inner).run ((Form.number token).text ++ t))
      ((token.literal.value []).toOption.map .number) t := by
  have hscan := token.finds_scanNumber ht
  refine finds_ofStart ?_
  intro c r htext hopener
  -- No keyword starts like a number, so the reader does get to the numbers.
  have hstart : startsNumber c = true := hopener
  have hn := ne_of_startsNumber hstart (show startsNumber 'n' = false by decide)
  have htrue := ne_of_startsNumber hstart (show startsNumber 't' = false by decide)
  have hfalse := ne_of_startsNumber hstart (show startsNumber 'f' = false by decide)
  rw [show token.text = c :: r from htext, List.cons_append] at hscan
  rw [if_neg hn, if_neg htrue, if_neg hfalse, if_pos hstart]
  rcases hscan.split with ⟨hnone, e, he⟩ | ⟨n, hsome, hn⟩
  · simp only [he, hnone]
    exact Finds.error e
  · simp only [hn, hsome]
    exact Finds.some_iff.mpr rfl

theorem finds_tree_quoted (pieces : List Piece) (t : List Char) :
    Finds ((Value.readerOver inner).run ((Form.quoted pieces).text ++ t))
      ((spelling? pieces).map fun text => .text (String.ofList text)) t := by
  have hscan := finds_scanText pieces t
  rw [Form.text, quotedText_append, Value.readerOver, run_ofStart (by decide), if_neg (by decide),
    if_neg (by decide), if_neg (by decide), if_neg (by decide), if_pos rfl]
  rcases hscan.split with ⟨hnone, e, he⟩ | ⟨text, hsome, htext⟩
  · simp only [he, hnone]
    exact Finds.error e
  · simp only [htext, hsome]
    exact Finds.some_iff.mpr rfl

theorem finds_tree_list {reader : Reader Value} (h : Settled reader) (opening : Gap)
    (items : List (Item Form)) (t : List Char) :
    Finds ((Value.readerOver (some reader)).run ((Form.list opening items).text ++ t))
      ((items? (fun form => reader.value? form.text) items).map .list) t := by
  have hscan := finds_enclosed (closeList_listEnd t) (finds_scanItems h opening items t)
  rw [listText_append, Value.readerOver, run_ofStart (by decide), if_neg (by decide),
    if_neg (by decide), if_neg (by decide), if_neg (by decide), if_neg (by decide), if_pos rfl]
  rcases hscan.split with ⟨hnone, e, he⟩ | ⟨found, hsome, hfound⟩
  · simp only [he, hnone]
    exact Finds.error e
  · simp only [hfound, hsome]
    exact Finds.some_iff.mpr rfl

theorem finds_tree_record {reader : Reader Value} (h : Settled reader) (opening : Gap)
    (entries : List (Entry Form)) (t : List Char) :
    Finds ((Value.readerOver (some reader)).run ((Form.record opening entries).text ++ t))
      ((members? (fun form => reader.value? form.text) entries).map .record) t := by
  -- The reader keeps the entries in their order, whatever their keys are.
  have hentries := finds_scanEntries (Value.keep reader) (keep_settled h) opening entries [] t
  have hscan := finds_enclosed (closeRecord_recordEnd t) hentries
  rw [foldlM_keep] at hscan
  simp only [List.nil_append, Option.map_id'] at hscan
  rw [recordText_append, Value.readerOver, run_ofStart (by decide), if_neg (by decide),
    if_neg (by decide), if_neg (by decide), if_neg (by decide), if_neg (by decide),
    if_neg (by decide), if_pos rfl]
  unfold Value.keep at hscan
  rcases hscan.split with ⟨hnone, e, he⟩ | ⟨found, hsome, hfound⟩
  · simp only [he, hnone]
    exact Finds.error e
  · simp only [hfound, hsome]
    exact Finds.some_iff.mpr rfl

end Readers

/-- The tree of a form is found wherever the form stands. By induction on the
    brackets that may be entered: what is in them is read with one less. -/
theorem finds_tree (depth : Nat) (form : Form) {t : List Char} (ht : EndsNumber t) :
    Finds ((Value.reader depth).run (form.text ++ t)) (form.tree? depth) t := by
  induction depth generalizing form t with
  | zero =>
      cases form with
      | null => exact Finds.some_iff.mpr rfl
      | truth value => cases value <;> exact Finds.some_iff.mpr rfl
      | number token => exact finds_tree_number none token ht
      | quoted pieces => exact finds_tree_quoted none pieces t
      -- There is no reader for what is in a bracket.
      | list opening items => exact Finds.error _
      | record opening entries => exact Finds.error _
  | succ depth ih =>
      -- Both what the reader finds and that it can be relied upon hold for one bracket less.
      have hsettled : Settled (Value.reader depth) :=
        .of_finds (skips_value depth) fun form => ⟨form.tree? depth, fun _ hu => ih form hu⟩
      have hvalue : (fun form : Form => (Value.reader depth).value? form.text) =
          Form.tree? depth :=
        funext fun form => value?_of_finds_append fun _ hu => ih form hu
      cases form with
      | null => exact Finds.some_iff.mpr rfl
      | truth value => cases value <;> exact Finds.some_iff.mpr rfl
      | number token => exact finds_tree_number _ token ht
      | quoted pieces => exact finds_tree_quoted _ pieces t
      | list opening items =>
          rw [Form.tree?, ← hvalue]
          exact finds_tree_list hsettled opening items t
      | record opening entries =>
          rw [Form.tree?, ← hvalue]
          exact finds_tree_record hsettled opening entries t

theorem settled_value (depth : Nat) : Settled (Value.reader depth) :=
  .of_finds (skips_value depth) fun form =>
    ⟨form.tree? depth, fun _ ht => finds_tree depth form ht⟩

theorem value?_tree (depth : Nat) (form : Form) :
    (Value.reader depth).value? form.text = form.tree? depth :=
  value?_of_finds_append fun _ ht => finds_tree depth form ht

/-! ### Which forms are trees -/

/-- No more than so many brackets of a form are open at once. -/
inductive Form.Nests : Nat → Form → Prop
  | null {depth : Nat} : Nests depth .null
  | truth {depth : Nat} (value : Bool) : Nests depth (.truth value)
  | number {depth : Nat} (token : NumberForm) : Nests depth (.number token)
  | quoted {depth : Nat} (pieces : List Piece) : Nests depth (.quoted pieces)
  | list {depth : Nat} {opening : Gap} {items : List (Item Form)}
      (h : ∀ item ∈ items, Nests depth item.value) : Nests (depth + 1) (.list opening items)
  | record {depth : Nat} {opening : Gap} {entries : List (Entry Form)}
      (h : ∀ entry ∈ entries, Nests depth entry.value) :
      Nests (depth + 1) (.record opening entries)

/-- More brackets than that may be open as well. -/
theorem Form.Nests.succ {depth : Nat} {form : Form} (h : form.Nests depth) :
    form.Nests (depth + 1) := by
  induction h with
  | null => exact .null
  | truth value => exact .truth value
  | number token => exact .number token
  | quoted pieces => exact .quoted pieces
  | list _ ih => exact .list ih
  | record _ ih => exact .record ih

/-- All strings and keys of a form spell something, and its numbers are of the
    given kind. -/
inductive Form.Sound (fits : NumberForm → Prop) : Form → Prop
  | null : Sound fits .null
  | truth (value : Bool) : Sound fits (.truth value)
  | number {token : NumberForm} (h : fits token) : Sound fits (.number token)
  | quoted {pieces : List Piece} (h : spelling? pieces ≠ none) : Sound fits (.quoted pieces)
  | list {opening : Gap} {items : List (Item Form)}
      (h : ∀ item ∈ items, Sound fits item.value) : Sound fits (.list opening items)
  | record {opening : Gap} {entries : List (Entry Form)}
      (hkeys : ∀ entry ∈ entries, spelling? entry.key ≠ none)
      (h : ∀ entry ∈ entries, Sound fits entry.value) : Sound fits (.record opening entries)

/-- A number that is not too large: what its digits and its exponent come to is
    an integer that fits or a finite double. -/
def NumberForm.IsKept (token : NumberForm) : Prop :=
  ∃ n, token.literal.value [] = .ok n

theorem mapM_ne_none {f : β → Option α} {bs : List β} :
    bs.mapM f ≠ none ↔ ∀ b ∈ bs, f b ≠ none := by
  induction bs with
  | nil => simp only [List.mapM_nil, Option.pure_def, ne_eq, reduceCtorEq, not_false_eq_true,
      List.not_mem_nil, false_implies, implies_true]
  | cons b bs ih =>
      -- The first that gives nothing is the end, whatever comes behind it.
      rw [mapM_cons, List.forall_mem_cons, ← ih]
      cases f b with
      | none => simp only [Option.bind_none, ne_eq, not_true_eq_false, false_and]
      | some a => simp only [Option.bind_some, ne_eq, Option.map_eq_none_iff, reduceCtorEq,
          not_false_eq_true, true_and]

theorem tree?_list_ne_none {depth : Nat} {opening : Gap} {items : List (Item Form)} :
    (Form.list opening items).tree? (depth + 1) ≠ none ↔
      ∀ item ∈ items, item.value.tree? depth ≠ none := by
  rw [Form.tree?, ne_eq, Option.map_eq_none_iff]
  exact mapM_ne_none

theorem tree?_record_ne_none {depth : Nat} {opening : Gap} {entries : List (Entry Form)} :
    (Form.record opening entries).tree? (depth + 1) ≠ none ↔
      ∀ entry ∈ entries, spelling? entry.key ≠ none ∧ entry.value.tree? depth ≠ none := by
  -- An entry needs a key that spells something, and a value.
  have hmember : ∀ entry : Entry Form, entry.member? (Form.tree? depth) ≠ none ↔
      spelling? entry.key ≠ none ∧ entry.value.tree? depth ≠ none := by
    intro entry
    rw [← Entry.name?_ne_none, Entry.member?]
    cases entry.name? with
    | none => simp only [Option.bind_none, ne_eq, not_true_eq_false, false_and]
    | some name => simp only [Option.bind_some, ne_eq, Option.map_eq_none_iff, reduceCtorEq,
        not_false_eq_true, true_and]
  rw [Form.tree?, ne_eq, Option.map_eq_none_iff]
  refine mapM_ne_none.trans ?_
  simp only [hmember]

/-- A form has a tree exactly if it is no deeper than allowed, its numbers are
    not too large and its strings spell something. -/
theorem tree?_ne_none {depth : Nat} {form : Form} :
    form.tree? depth ≠ none ↔ form.Nests depth ∧ form.Sound NumberForm.IsKept := by
  induction form using Form.induction generalizing depth with
  | null =>
      rw [Form.tree?]
      exact iff_of_true (Option.some_ne_none _) ⟨.null, .null⟩
  | truth value =>
      rw [Form.tree?]
      exact iff_of_true (Option.some_ne_none _) ⟨.truth value, .truth value⟩
  | number token =>
      have hkept : (Form.number token).tree? depth ≠ none ↔ token.IsKept := by
        rw [Form.tree?, NumberForm.IsKept]
        cases token.literal.value [] <;>
          simp only [Except.toOption, Option.map_none, Option.map_some, ne_eq, not_true_eq_false,
            reduceCtorEq, not_false_eq_true, exists_false, Except.ok.injEq, exists_eq']
      rw [hkept]
      refine ⟨fun h => ⟨.number token, .number h⟩, ?_⟩
      rintro ⟨_, hsound⟩
      cases hsound with
      | number h => exact h
  | quoted pieces =>
      rw [Form.tree?, ne_eq, Option.map_eq_none_iff]
      refine ⟨fun h => ⟨.quoted pieces, .quoted h⟩, ?_⟩
      rintro ⟨_, hsound⟩
      cases hsound with
      | quoted h => exact h
  | list opening items ih =>
      cases depth with
      -- A bracket is open already where none may be.
      | zero =>
          refine iff_of_false (fun h => h rfl) ?_
          rintro ⟨hnests, _⟩
          cases hnests
      | succ depth =>
          rw [tree?_list_ne_none]
          constructor
          · intro h
            exact ⟨.list fun item hitem => ((ih item hitem).mp (h item hitem)).1,
              .list fun item hitem => ((ih item hitem).mp (h item hitem)).2⟩
          · rintro ⟨hnests, hsound⟩ item hitem
            cases hnests with
            | list hnests =>
                cases hsound with
                | list hsound => exact (ih item hitem).mpr ⟨hnests item hitem, hsound item hitem⟩
  | record opening entries ih =>
      cases depth with
      | zero =>
          refine iff_of_false (fun h => h rfl) ?_
          rintro ⟨hnests, _⟩
          cases hnests
      | succ depth =>
          rw [tree?_record_ne_none]
          constructor
          · intro h
            exact ⟨.record fun entry hentry => ((ih entry hentry).mp (h entry hentry).2).1,
              .record (fun entry hentry => (h entry hentry).1)
                fun entry hentry => ((ih entry hentry).mp (h entry hentry).2).2⟩
          · rintro ⟨hnests, hsound⟩ entry hentry
            cases hnests with
            | record hnests =>
                cases hsound with
                | record hkeys hsound =>
                    exact ⟨hkeys entry hentry,
                      (ih entry hentry).mpr ⟨hnests entry hentry, hsound entry hentry⟩⟩

/-! ### Numbers at the edge -/

namespace Literal

theorem scaled_eq_none {n e : Nat} (hn : n ≠ 0)
    (h : infinityBound ≤ nearestWhole n * nearestWhole (Nat.pow 10 e)) : scaled n e = none := by
  rw [scaled, if_pos (Int.natCast_nonneg e), if_neg hn]
  split
  · rfl
  · exact if_pos h

/-- A number without a point is refused if its digits are too large when they are
    scaled by its exponent. -/
theorem value_eq_error {l : Literal} {digits rest : List Char} {n e : Nat}
    (hn : absorb UInt64.size 0 l.integer = (n, [])) (hfraction : l.fraction = none)
    (hexponent : l.exponent = some (false, digits))
    (he : absorb exponentLimit 0 digits = (e, [])) (h : scaled n e = none) :
    ∃ failure, l.value rest = .error failure := by
  -- Without a point the scale is the exponent alone.
  have hscale : (([] : List Char).length : Int) -
      (([] : List Char).length - ([] : List Char).length : Nat) + e = e := by
    simp only [List.length_nil, Nat.sub_zero, Int.natCast_zero, Int.sub_zero, Int.zero_add]
  rw [value, hn]
  simp only [hfraction, hexponent, Option.isNone_some, Bool.false_eq_true, false_and, and_false,
    if_false, Option.getD_none, absorb, real, he, hscale, h]
  exact ⟨_, rfl⟩

end Literal

/-- The greatest double. -/
def greatestDouble : Nat := Nat.pow 2 1024 - Nat.pow 2 971

namespace NumberForm

/-- The digits behind the point. -/
def fractionDigits (token : NumberForm) : List Char :=
  (token.fraction.map Digits.chars).getD []

/-- The number that the digits spell if the point is left out. -/
def significand (token : NumberForm) : Nat :=
  (token.integer.chars ++ token.fractionDigits).foldl (fun n c => n * 10 + Literal.digit c) 0

/-- The power of ten that makes up for the point, with the exponent. -/
def scale (token : NumberForm) : Int :=
  (match token.exponent with
    | none => 0
    | some exponent =>
        if exponent.minus = some true then -exponent.digits.value else exponent.digits.value) -
    token.fractionDigits.length

/-- The magnitude of a number is not above the greatest double. -/
def InRange (token : NumberForm) : Prop :=
  token.significand * Nat.pow 10 token.scale.toNat ≤
    greatestDouble * Nat.pow 10 (-token.scale).toNat

end NumberForm

/-- A number just below the greatest double, in more digits than a double
    has. -/
def edgeNumber : NumberForm where
  isNegative := false
  integer := ⟨"1797693134862315700".toList, by decide, List.all_eq_true.mp (by decide)⟩
  fraction := none
  exponent := some
    { letter := 'e', isLetter := .inl rfl, minus := none
      digits := ⟨"290".toList, by decide, List.all_eq_true.mp (by decide)⟩ }
  proper := by decide

theorem edgeNumber_inRange : edgeNumber.InRange := by
  have hsignificand : edgeNumber.significand = 1797693134862315700 := by decide
  have hscale : edgeNumber.scale = 290 := by decide
  rw [NumberForm.InRange, hsignificand, hscale]
  decide +kernel

/-- Rounded to doubles, its digits and its power of ten are a little larger than
    they are, and their product is too large. -/
theorem edgeNumber_not_kept : ¬edgeNumber.IsKept := by
  -- The product of the two roundings is past the edge, although the number is not.
  have hbound :
      infinityBound ≤ nearestWhole 1797693134862315700 * nearestWhole (Nat.pow 10 290) := by
    decide +kernel
  have hscaled := Literal.scaled_eq_none (by decide) hbound
  have hdigits : Literal.absorb UInt64.size 0 edgeNumber.literal.integer =
      (1797693134862315700, []) := by decide
  have hexponent : Literal.absorb Literal.exponentLimit 0 "290".toList = (290, []) := by decide
  rcases @Literal.value_eq_error _ _ [] _ _ hdigits rfl rfl hexponent hscaled with
    ⟨failure, hvalue⟩
  rintro ⟨n, hn⟩
  rw [hvalue] at hn
  simp only [reduceCtorEq] at hn

end Json

end DashKit
