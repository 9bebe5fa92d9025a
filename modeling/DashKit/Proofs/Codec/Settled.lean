import DashKit.Proofs.Codec.Exact
import DashKit.Proofs.Json.Passing

/-!
# Readers That Settle

What a reader makes of a value does not depend on where the value stands.

A caller knows what a text stands for by itself, and wants to know what it
stands for inside a record. That the two are the same is not a matter of
course: a reader that gives up in the middle of a value, or that goes on
behind it, would throw the record off. `Settled` says that there is no such
value. On any form the reader either takes the whole text and finds the same
thing whatever follows, or fails whatever follows.

The proofs go through the forms. A reader knows from the first character
whether a form is of the kind it expects, and refuses the others at once.

## Main definitions

* `Reader.value?`: What a reader makes of a text by itself.
* `Settled`: A reader makes the same of a value wherever it stands.

## Theorems

* `settled_truth`, `settled_quoted`, `settled_word32`: Plain values.
* `settled_optional`, `settled_member`: Optional values and words.
* `settled_anything`: Values that are passed over.
-/

namespace DashKit

namespace Json

variable {α β : Type}

/-- What a reader makes of a text by itself. -/
def Reader.value? (reader : Reader α) (s : List Char) : Option α :=
  (reader.run s).toOption.map Prod.fst

/-- A reader makes the same of a value by itself and in front of more, and
    ignores the blanks in front of it. -/
structure Settled (reader : Reader α) : Prop where
  skips : Skips reader.run
  finds : ∀ (form : Form) t, EndsNumber t →
    Finds (reader.run (form.text ++ t)) (reader.value? form.text) t

theorem value?_of_finds {reader : Reader α} {s t : List Char} {found : Option α}
    (h : Finds (reader.run s) found t) : reader.value? s = found := by
  rw [Reader.value?, h, Option.map_map]
  exact Option.map_id'

/-- What is found in front of anything is found in a text by itself. -/
theorem value?_of_finds_append {reader : Reader α} {s : List Char} {found : Option α}
    (h : ∀ t, EndsNumber t → Finds (reader.run (s ++ t)) found t) : reader.value? s = found := by
  have halone := h [] endsNumber_nil
  rw [List.append_nil] at halone
  exact value?_of_finds halone

/-- It is enough that what is found does not depend on what follows. -/
theorem Settled.of_finds {reader : Reader α} (skips : Skips reader.run)
    (h : ∀ form : Form, ∃ found, ∀ t, EndsNumber t →
      Finds (reader.run (form.text ++ t)) found t) : Settled reader := by
  refine ⟨skips, ?_⟩
  intro form t ht
  rcases h form with ⟨found, hfound⟩
  rw [value?_of_finds_append hfound]
  exact hfound t ht

theorem Settled.finds_gap {reader : Reader α} (h : Settled reader) (gap : Gap) (form : Form)
    {t : List Char} (ht : EndsNumber t) :
    Finds (reader.run (gap.chars ++ (form.text ++ t))) (reader.value? form.text) t := by
  rw [h.skips gap.blank]
  exact h.finds form t ht

theorem finds_reject (expected : String) (s t : List Char) :
    Finds (reject expected s : Outcome α) none t := by
  cases hr : (reject expected s : Outcome α) with
  | error e => exact Finds.error e
  | ok found => exact absurd hr (reject_ne_ok _ _ _)

theorem finds_map {reader : Reader α} {s t : List Char} {found : Option α}
    (h : Finds (reader.run s) found t) (f : α → β) :
    Finds ((reader.map f).run s) (found.map f) t := by
  rcases h.split with ⟨rfl, e, he⟩ | ⟨a, rfl, ha⟩
  · simp only [Reader.map, he]
    exact Finds.error e
  · simp only [Reader.map, ha]
    exact Finds.some_iff.mpr rfl

theorem value?_map (reader : Reader α) (f : α → β) (s : List Char) :
    (reader.map f).value? s = (reader.value? s).map f := by
  simp only [Reader.value?, Reader.map]
  cases reader.run s <;> rfl

theorem Settled.map {reader : Reader α} (h : Settled reader) (f : α → β) :
    Settled (reader.map f) := by
  refine ⟨?_, ?_⟩
  · intro gap hgap s
    simp only [Reader.map, h.skips hgap s]
  · intro form t ht
    rw [value?_map]
    exact finds_map (h.finds form t ht) f

theorem finds_sift {reader : Reader α} {s t : List Char} {found : Option α}
    (h : Finds (reader.run s) found t) (accept : α → Except Cause β) :
    Finds ((reader.sift accept).run s) (found.bind fun a => (accept a).toOption) t := by
  rcases h.split with ⟨rfl, e, he⟩ | ⟨a, rfl, ha⟩
  · simp only [Reader.sift, he]
    exact Finds.error e
  · simp only [Reader.sift, ha, Option.bind_some]
    cases accept a with
    | error cause => exact Finds.error _
    | ok b => exact Finds.some_iff.mpr rfl

theorem Settled.sift {reader : Reader α} (h : Settled reader) (accept : α → Except Cause β) :
    Settled (reader.sift accept) :=
  .of_finds (skips_sift h.skips accept) fun form =>
    ⟨_, fun t ht => finds_sift (h.finds form t ht) accept⟩

theorem value?_sift {reader : Reader α} (h : Settled reader) (accept : α → Except Cause β)
    (form : Form) :
    (reader.sift accept).value? form.text =
      (reader.value? form.text).bind fun a => (accept a).toOption :=
  value?_of_finds_append fun t ht => finds_sift (h.finds form t ht) accept

theorem skips_ofStart {body : Char → List Char → Outcome α}
    {law : ∀ {c r a rest}, body c r = .ok (a, rest) → rest.length ≤ r.length} :
    Skips (Reader.ofStart body @law).run :=
  skips_of_afterGap fun s t h => by simp only [Reader.ofStart, h]

theorem settled_anything : Settled Reader.anything := by
  refine .of_finds (skips_of_afterGap ?_) fun form => ⟨some (), ?_⟩
  -- The blanks are skipped before anything else is looked at.
  · intro s t h
    have hpass : pass .value [] s = pass .value [] t := by
      conv => lhs; rw [pass, h]
      conv => rhs; rw [pass]
    simp only [Reader.anything, hpass]
  · intro t ht
    exact Finds.some_iff.mpr (run_anything .none form ht)

/-- A reader that looks at the first character goes on behind it. -/
theorem finds_ofStart {body : Char → List Char → Outcome α}
    {law : ∀ {c r a rest}, body c r = .ok (a, rest) → rest.length ≤ r.length} {form : Form}
    {found : Option α} {t : List Char}
    (h : ∀ c r, form.text = c :: r → form.opener c = true → Finds (body c (r ++ t)) found t) :
    Finds ((Reader.ofStart body @law).run (form.text ++ t)) found t := by
  -- A form starts with its opener, and an opener is no blank.
  rcases form.exists_opener with ⟨c, r, htext, hopener⟩
  rcases form.starts with ⟨d, s, hd, hgap, _⟩
  rw [htext, List.cons.injEq] at hd
  rw [← hd.1] at hgap
  rw [htext, List.cons_append, run_ofStart hgap]
  exact h c r htext hopener

theorem settled_truth : Settled Reader.truth := by
  refine .of_finds skips_ofStart ?_
  intro form
  by_cases hform : ∃ value, form = .truth value
  · rcases hform with ⟨value, rfl⟩
    refine ⟨some value, fun t _ => Finds.some_iff.mpr ?_⟩
    cases value <;> rfl
  · refine ⟨none, fun t _ => finds_ofStart ?_⟩
    intro c r _ hopener
    -- A form that opens like a keyword is that keyword.
    rw [if_neg fun hc => hform (Form.eq_truth hopener (.inl hc)),
      if_neg fun hc => hform (Form.eq_truth hopener (.inr hc))]
    exact finds_reject _ _ _

theorem settled_unit : Settled Reader.unit := by
  refine .of_finds skips_ofStart ?_
  intro form
  by_cases hform : form = .null
  · subst hform
    exact ⟨some (), fun t _ => Finds.some_iff.mpr rfl⟩
  · refine ⟨none, fun t _ => finds_ofStart ?_⟩
    intro c r _ hopener
    rw [if_neg fun hc : c = 'n' => hform (Form.eq_null (hc ▸ hopener))]
    exact finds_reject _ _ _

/-- A string is found if it spells a text that is accepted. -/
theorem finds_quoted (expected : String) (accept : String → Except Cause α) (pieces : List Piece)
    (t : List Char) :
    Finds ((Reader.quoted expected accept).run ((Form.quoted pieces).text ++ t))
      ((spelling? pieces).bind fun text => (accept (String.ofList text)).toOption) t := by
  have hscan := finds_scanText pieces t
  rw [Form.text, quotedText_append, Reader.quoted, run_ofStart (by decide), if_pos rfl]
  -- Either the string spells nothing or its text is put to the test.
  rcases hscan.split with ⟨hnone, e, he⟩ | ⟨text, hsome, htext⟩
  · simp only [he, hnone]
    exact Finds.error e
  · simp only [htext, hsome, Option.bind_some]
    cases accept (String.ofList text) with
    | error cause => exact Finds.error _
    | ok a => exact Finds.some_iff.mpr rfl

theorem finds_quoted_none (expected : String) (accept : String → Except Cause α) {form : Form}
    (h : ∀ pieces, form ≠ .quoted pieces) (t : List Char) :
    Finds ((Reader.quoted expected accept).run (form.text ++ t)) none t := by
  refine finds_ofStart ?_
  intro c r _ hopener
  -- Only a string starts with a quote.
  have hquote : c ≠ '"' := by
    rintro rfl
    rcases Form.eq_quoted hopener with ⟨pieces, hpieces⟩
    exact h pieces hpieces
  rw [if_neg hquote]
  exact finds_reject _ _ _

theorem settled_quoted (expected : String) (accept : String → Except Cause α) :
    Settled (Reader.quoted expected accept) := by
  refine .of_finds skips_ofStart ?_
  intro form
  by_cases hform : ∃ pieces, form = .quoted pieces
  · rcases hform with ⟨pieces, rfl⟩
    exact ⟨_, fun t _ => finds_quoted expected accept pieces t⟩
  · have hother : ∀ pieces, form ≠ .quoted pieces := fun pieces heq => hform ⟨pieces, heq⟩
    exact ⟨none, fun t _ => finds_quoted_none expected accept hother t⟩

theorem settled_text : Settled Reader.text :=
  settled_quoted _ _

theorem settled_char : Settled Reader.char :=
  settled_quoted _ _

/-- A text is found in a string that spells it. -/
theorem value?_text {form : Form} {text : String} (h : form.Spells text) :
    Reader.text.value? form.text = some text := by
  rcases h with ⟨pieces, rfl, hspelling⟩
  have hfinds := fun t => finds_quoted "a string" Except.ok pieces t
  rw [hspelling, Option.bind_some, String.ofList_toList] at hfinds
  exact value?_of_finds_append fun t _ => hfinds t

/-- The number of thirty-two bits that a numeral is. -/
def word? : Numeral → Option UInt32
  | .natural n => if n < UInt32.size then some n.toUInt32 else none
  | _ => none

/-- A number is found if it is a natural one of thirty-two bits. -/
theorem finds_word32 (token : NumberForm) {t : List Char} (ht : EndsNumber t) :
    Finds (Reader.word32.run ((Form.number token).text ++ t))
      ((token.literal.value []).toOption.bind word?) t := by
  have hscan := token.finds_scanNumber ht
  refine finds_ofStart ?_
  intro c r htext hopener
  have hstart : startsNumber c = true := hopener
  rw [show token.text = c :: r from htext, List.cons_append] at hscan
  rw [if_pos hstart]
  rcases hscan.split with ⟨hnone, e, he⟩ | ⟨n, hsome, hn⟩
  · simp only [he, hnone]
    exact Finds.error e
  · simp only [hn, hsome, Option.bind_some]
    -- Of the three kinds of numerals one can be such a number, and only below the bound.
    cases n with
    | natural n =>
        by_cases hlt : n < UInt32.size
        · simp only [word?, if_pos hlt]
          exact Finds.some_iff.mpr rfl
        · simp only [word?, if_neg hlt]
          exact Finds.error _
    | negative n => exact Finds.error _
    | real x => exact Finds.error _

/-- Whatever is no number is refused. -/
theorem finds_word32_none {form : Form} (h : ∀ token, form ≠ .number token) (t : List Char) :
    Finds (Reader.word32.run (form.text ++ t)) none t := by
  refine finds_ofStart ?_
  intro c r _ hopener
  have hstart : ¬startsNumber c = true := by
    intro hc
    rcases Form.eq_number hopener hc with ⟨token, htoken⟩
    exact h token htoken
  rw [if_neg hstart]
  exact finds_reject _ _ _

theorem settled_word32 : Settled Reader.word32 := by
  refine .of_finds skips_ofStart ?_
  intro form
  by_cases hform : ∃ token, form = .number token
  · rcases hform with ⟨token, rfl⟩
    exact ⟨_, fun t ht => finds_word32 token ht⟩
  · have hother : ∀ token, form ≠ .number token := fun token htoken => hform ⟨token, htoken⟩
    exact ⟨none, fun t _ => finds_word32_none hother t⟩

/-- All but the word for nothing is left to the reader of the value. -/
theorem finds_optional {reader : Reader α} (h : Settled reader) {form : Form}
    (hform : form ≠ .null) {t : List Char} (ht : EndsNumber t) :
    Finds (reader.optional.run (form.text ++ t)) ((reader.value? form.text).map some) t := by
  have hgap : afterGap (form.text ++ t) = form.text ++ t := afterGap_form .none form t
  have hfound := finds_map (h.finds form t ht) some
  rcases form.exists_opener with ⟨c, r, htext, hopener⟩
  -- The word for nothing is the only form that starts with this letter.
  have hc : c ≠ 'n' := by
    rintro rfl
    exact hform (Form.eq_null hopener)
  rw [htext, List.cons_append] at hgap hfound ⊢
  rw [Reader.run_optional_of_ne reader hgap hc]
  exact hfound

theorem settled_optional {reader : Reader α} (h : Settled reader) : Settled reader.optional := by
  refine .of_finds (skips_of_afterGap fun s t hg => by simp only [Reader.optional, hg]) ?_
  intro form
  by_cases hform : form = .null
  · subst hform
    exact ⟨some none, fun t _ => Finds.some_iff.mpr rfl⟩
  · exact ⟨_, fun t ht => finds_optional h hform ht⟩

theorem value?_optional {reader : Reader α} (h : Settled reader) {form : Form}
    (hform : form ≠ .null) :
    reader.optional.value? form.text = (reader.value? form.text).map some :=
  value?_of_finds_append fun _ ht => finds_optional h hform ht

/-! ### Words -/

section Members

variable {members : List (String × α)}

/-- The member whose word a string spells. -/
def member? (members : List (String × α)) (pieces : List Piece) : Option α :=
  (spelling? pieces).bind fun text =>
    (members.find? fun member => member.1 == String.ofList text).map Prod.snd

theorem finds_scanMember (members : List (String × α)) (pieces : List Piece) (t : List Char) :
    Finds (scanMember members (pieces.flatMap Piece.text ++ '"' :: t))
      (member? members pieces) t := by
  have hscan := finds_scanText pieces t
  rw [scanMember, member?]
  rcases hscan.split with ⟨hnone, e, he⟩ | ⟨text, hsome, htext⟩
  · simp only [he, hnone]
    exact Finds.error e
  · simp only [htext, hsome, Option.bind_some]
    cases members.find? fun member => member.1 == String.ofList text with
    | none => exact Finds.error _
    | some member => exact Finds.some_iff.mpr rfl

/-- Behind the word that is the only key, the value must be nothing and the
    record must end. -/
theorem finds_scanNothing (value : α) (entry : Entry Form) (others : List (Entry Form))
    (t : List Char) :
    Finds (scanNothing value (entry.behindText
        ((others.map Form.entryText).flatMap (fun w => ',' :: w) ++ recordEnd :: t)))
      (if others = [] then (Reader.unit.value? entry.value.text).map fun _ => value else none)
      t := by
  have hunit := settled_unit.finds_gap entry.beforeValue entry.value
    (endsNumber_behind entry.after (others.map Form.entryText) (endsNumber_recordEnd t))
  rw [scanNothing, scanColon_behindText, Entry.fromValue]
  rcases hunit.split with ⟨hnone, e, he⟩ | ⟨_, hsome, hrun⟩
  · simp only [he, hnone, Option.map_none, ite_self]
    exact Finds.error e
  · simp only [hrun, hsome, Option.map_some]
    -- The record ends here, or a comma shows that there is another entry.
    cases others with
    | nil =>
        have hgap : afterGap (entry.after.chars ++ ([] ++ recordEnd :: t)) = recordEnd :: t :=
          afterGap_token entry.after (by decide) t
        rw [List.map_nil, List.flatMap_nil, hgap]
        exact Finds.some_iff.mpr rfl
    | cons other others =>
        rw [List.map_cons, List.flatMap_cons, List.cons_append, List.cons_append,
          afterGap_token entry.after (by decide), if_neg (List.cons_ne_nil _ _)]
        exact Finds.error _

/-- The member that the entries of a record spell: there must be one entry, with
    the word as its key and nothing as its value. -/
def tagged? (members : List (String × α)) : List (Entry Form) → Option α
  | [] => none
  | entry :: others =>
      (member? members entry.key).bind fun a =>
        if others = [] then (Reader.unit.value? entry.value.text).map fun _ => a else none

theorem finds_scanTagged (members : List (String × α)) (opening : Gap)
    (entries : List (Entry Form)) (t : List Char) :
    Finds (scanTagged members (opening.chars ++
        (Value.separated (entries.map Form.entryText) ++ recordEnd :: t)))
      (tagged? members entries) t := by
  cases entries with
  | nil =>
      rw [List.map_nil, Value.separated, List.nil_append, scanTagged,
        afterGap_token opening (by decide)]
      exact Finds.error _
  | cons entry others =>
      have hscan := finds_scanMember members entry.key (entry.behindText
        ((others.map Form.entryText).flatMap (fun w => ',' :: w) ++ recordEnd :: t))
      rw [List.map_cons, separated_cons, List.append_assoc, entryText_append, quotedText_append,
        scanTagged, afterGap_gap, afterGap_token entry.before (by decide), tagged?]
      rcases hscan.split with ⟨hnone, e, he⟩ | ⟨a, hsome, ha⟩
      · simp only [he, hnone]
        exact Finds.error e
      · simp only [ha, hsome, Option.bind_some]
        exact finds_scanNothing a entry others t

theorem finds_member_quoted (depth : Nat) (members : List (String × α)) (pieces : List Piece)
    (t : List Char) :
    Finds ((Reader.member depth members).run ((Form.quoted pieces).text ++ t))
      (member? members pieces) t := by
  rw [Form.text, quotedText_append, Reader.member, run_ofStart (by decide), if_pos rfl]
  exact finds_scanMember members pieces t

theorem settled_member (depth : Nat) (members : List (String × α)) :
    Settled (Reader.member depth members) := by
  refine .of_finds skips_ofStart ?_
  intro form
  -- A word is a string, or a record of one entry; nothing else is looked into.
  by_cases hquoted : ∃ pieces, form = .quoted pieces
  · rcases hquoted with ⟨pieces, rfl⟩
    exact ⟨_, fun t _ => finds_member_quoted depth members pieces t⟩
  by_cases hrecord : ∃ opening entries, form = .record opening entries
  · rcases hrecord with ⟨opening, entries, rfl⟩
    cases depth with
    -- A record opens a bracket, and there is none to spare.
    | zero => exact ⟨none, fun t _ => Finds.error _⟩
    | succ depth =>
        refine ⟨tagged? members entries, ?_⟩
        intro t _
        rw [recordText_append, Reader.member, run_ofStart (by decide), if_neg (by decide),
          if_pos rfl]
        exact finds_scanTagged members opening entries t
  · refine ⟨none, fun t _ => finds_ofStart ?_⟩
    intro c r _ hopener
    rw [if_neg fun hc : c = '"' => hquoted (Form.eq_quoted (hc ▸ hopener)),
      if_neg fun hc : c = '\x7b' => hrecord (Form.eq_record (hc ▸ hopener))]
    exact Finds.error _

end Members

end Json

end DashKit
