import DashKit.Proofs.Json.Recognition

/-!
# Passing Over Any Value

A value that nobody asked for is passed over to its last token, however it is
written.

The loop that passes over a value knows nothing of the grammar. It keeps the
brackets that are open, and a text that opened and closed them in the wrong
order would lead it astray. So the statement is about the brackets: passing
over a form with some brackets open comes back to the phase behind a value
with the same ones open. It is an induction on forms, with one more along the
items of each bracket.

Nothing is asked of what is passed over but that it is a form. A string may
spell no text, a number may be too large, a key may be the third of its name,
and there may be as many brackets as there is memory for.

## Main definitions

* `Passed`: Passing over a form leads behind it.

## Theorems

* `passed`: Every form is passed over.
* `run_anything`: So the reader of any value ends behind it.
-/

namespace DashKit

namespace Json

/-- A form is found behind the blanks in front of it. -/
theorem afterGap_form (gap : Gap) (form : Form) (t : List Char) :
    afterGap (gap.chars ++ (form.text ++ t)) = form.text ++ t := by
  rcases form.starts with ⟨c, r, htext, hc, _⟩
  rw [afterGap_gap, htext, List.cons_append, afterGap_cons hc]

theorem itemText_append (item : Item Form) (t : List Char) :
    Form.itemText item ++ t =
      item.before.chars ++ (item.value.text ++ (item.after.chars ++ t)) := by
  rw [Form.itemText, List.append_assoc, List.append_assoc]

/-- What stands from the value of an entry on. -/
def Entry.fromValue (entry : Entry Form) (t : List Char) : List Char :=
  entry.beforeValue.chars ++ (entry.value.text ++ (entry.after.chars ++ t))

/-- What stands behind the key of an entry. -/
def Entry.behindText (entry : Entry Form) (t : List Char) : List Char :=
  entry.behindKey.chars ++ ':' :: entry.fromValue t

theorem entryText_append (entry : Entry Form) (t : List Char) :
    Form.entryText entry ++ t =
      entry.before.chars ++ (quotedText entry.key ++ entry.behindText t) := by
  rw [Form.entryText]
  simp only [Entry.behindText, Entry.fromValue, List.append_assoc, List.cons_append]

theorem quotedText_append (pieces : List Piece) (t : List Char) :
    quotedText pieces ++ t = '"' :: (pieces.flatMap Piece.text ++ '"' :: t) := by
  simp only [quotedText, List.cons_append, List.append_assoc, List.nil_append]

theorem listText_append (opening : Gap) (items : List (Item Form)) (t : List Char) :
    (Form.list opening items).text ++ t = '[' :: (opening.chars ++
      (Value.separated (items.map Form.itemText) ++ listEnd :: t)) := by
  rw [Form.text, Form.itemTexts_eq_map]
  simp only [List.append_assoc, List.cons_append, List.nil_append]

theorem recordText_append (opening : Gap) (entries : List (Entry Form)) (t : List Char) :
    (Form.record opening entries).text ++ t = '\x7b' :: (opening.chars ++
      (Value.separated (entries.map Form.entryText) ++ recordEnd :: t)) := by
  rw [Form.text, Form.entryTexts_eq_map]
  simp only [List.append_assoc, List.cons_append, List.nil_append]

theorem scanColon_behindText (entry : Entry Form) (t : List Char) :
    scanColon (entry.behindText t) = .ok (entry.fromValue t) := by
  have hgap := afterGap_token entry.behindKey (show isGap ':' = false by decide)
    (entry.fromValue t)
  simp only [scanColon, Entry.behindText, hgap]

/-- A key is passed over with its colon. -/
theorem passKey_entry (gap : Gap) (entry : Entry Form) (t : List Char) :
    passKey .record (gap.chars ++ (quotedText entry.key ++ entry.behindText t)) =
      .ok (entry.fromValue t) := by
  rcases scanText_passed entry.key (entry.behindText t) with ⟨text, htext⟩
  -- The key is read as a text, and only where it ends matters here.
  have hgap : afterGap (gap.chars ++ (quotedText entry.key ++ entry.behindText t)) =
      '"' :: (entry.key.flatMap Piece.text ++ '"' :: entry.behindText t) := by
    rw [quotedText_append, afterGap_token gap (by decide)]
  simp only [passKey, hgap, htext, scanColon_behindText]

section Phases

variable {bracket : Bracket} {frames : List Bracket} {s r t : List Char} {c : Char}

theorem pass_list (hg : afterGap s = '[' :: r) :
    pass .value frames s = pass (.opened .list) frames r := by
  conv => lhs; rw [pass, hg]
  rfl

theorem pass_record (hg : afterGap s = '\x7b' :: r) :
    pass .value frames s = pass (.opened .record) frames r := by
  conv => lhs; rw [pass, hg]
  rfl

theorem pass_scalar (hg : afterGap s = c :: r) (hl : c ≠ '[') (hr : c ≠ '\x7b')
    (hk : passScalar c r = .ok t) : pass .value frames s = pass .closed frames t := by
  rw [pass, hg]
  simp only [if_neg hl, if_neg hr]
  rw [hk]

theorem pass_empty (hg : afterGap s = bracket.closer :: r) :
    pass (.opened bracket) frames s = pass .closed frames r := by
  rw [pass, hg]
  simp only [if_true]

theorem pass_first (hg : afterGap s = c :: r) (hc : c ≠ bracket.closer)
    (hk : passKey bracket (c :: r) = .ok t) :
    pass (.opened bracket) frames s = pass .value (bracket :: frames) t := by
  rw [pass, hg]
  simp only [if_neg hc]
  rw [hk]

theorem pass_comma (hg : afterGap s = ',' :: r) (hk : passKey bracket r = .ok t) :
    pass .closed (bracket :: frames) s = pass .value (bracket :: frames) t := by
  rw [pass, hg]
  simp only [if_true]
  rw [hk]

theorem pass_close (hg : afterGap s = bracket.closer :: r) :
    pass .closed (bracket :: frames) s = pass .closed frames r := by
  -- A comma is asked for first, and no bracket is closed by one.
  have hcomma : bracket.closer ≠ ',' := by cases bracket <;> decide
  rw [pass, hg]
  simp only [if_neg hcomma, if_true]

end Phases

/-- Passing over a form leads behind it, with the same brackets open. -/
def Passed (form : Form) : Prop :=
  ∀ frames (gap : Gap) t, EndsNumber t →
    pass .value frames (gap.chars ++ (form.text ++ t)) = pass .closed frames t

/-- No blanks at all. -/
def Gap.none : Gap := ⟨[], fun _ h => absurd h List.not_mem_nil⟩

/-- What stands behind an item ends a number. -/
theorem endsNumber_behind (gap : Gap) (parts : List (List Char)) {t : List Char}
    (ht : EndsNumber t) :
    EndsNumber (gap.chars ++ (parts.flatMap (fun w => ',' :: w) ++ t)) :=
  endsNumber_gap gap (endsNumber_parts parts ht)

/-- The later items of a list are passed over, and its end is taken. -/
theorem pass_items {items : List (Item Form)} (h : ∀ item ∈ items, Passed item.value)
    (frames : List Bracket) (gap : Gap) (t : List Char) :
    pass .closed (.list :: frames)
        (gap.chars ++ ((items.map Form.itemText).flatMap (fun w => ',' :: w) ++ listEnd :: t)) =
      pass .closed frames t := by
  induction items generalizing gap with
  | nil =>
      refine pass_close ?_
      rw [List.map_nil, List.flatMap_nil, List.nil_append]
      exact afterGap_token gap (by decide) t
  | cons item items ih =>
      -- The value is passed over with the bracket still open, which the induction closes.
      have hrest := ih (fun other ho => h other (List.mem_cons_of_mem _ ho)) item.after
      have hitem := h item List.mem_cons_self (.list :: frames) item.before _
        (endsNumber_behind item.after (items.map Form.itemText) (endsNumber_listEnd t))
      rw [List.map_cons, List.flatMap_cons, List.cons_append, List.cons_append, List.append_assoc,
        itemText_append]
      exact (pass_comma (afterGap_token gap (by decide) _) rfl).trans
        (hitem.trans hrest)

/-- The later entries of a record are passed over, and its end is taken. -/
theorem pass_entries {entries : List (Entry Form)} (h : ∀ entry ∈ entries, Passed entry.value)
    (frames : List Bracket) (gap : Gap) (t : List Char) :
    pass .closed (.record :: frames)
        (gap.chars ++
          ((entries.map Form.entryText).flatMap (fun w => ',' :: w) ++ recordEnd :: t)) =
      pass .closed frames t := by
  induction entries generalizing gap with
  | nil =>
      refine pass_close ?_
      rw [List.map_nil, List.flatMap_nil, List.nil_append]
      exact afterGap_token gap (by decide) t
  | cons entry entries ih =>
      -- As for items, with a key and its colon in front of every value.
      have hrest := ih (fun other ho => h other (List.mem_cons_of_mem _ ho)) entry.after
      have hentry := h entry List.mem_cons_self (.record :: frames) entry.beforeValue _
        (endsNumber_behind entry.after (entries.map Form.entryText) (endsNumber_recordEnd t))
      rw [List.map_cons, List.flatMap_cons, List.cons_append, List.cons_append, List.append_assoc,
        entryText_append]
      exact (pass_comma (afterGap_token gap (by decide) _)
        (passKey_entry entry.before entry _)).trans (hentry.trans hrest)

theorem passed_list {opening : Gap} {items : List (Item Form)}
    (h : ∀ item ∈ items, Passed item.value) : Passed (.list opening items) := by
  intro frames gap t _
  rw [listText_append, pass_list (afterGap_token gap (by decide) _)]
  cases items with
  | nil =>
      refine pass_empty ?_
      rw [List.map_nil, Value.separated, List.nil_append]
      exact afterGap_token opening (by decide) t
  | cons item items =>
      have hrest := pass_items (fun other ho => h other (List.mem_cons_of_mem _ ho)) frames
        item.after t
      have hitem := h item List.mem_cons_self (.list :: frames) .none _
        (endsNumber_behind item.after (items.map Form.itemText) (endsNumber_listEnd t))
      -- The first value must not look like the end of the list.
      rcases item.value.starts with ⟨c, r, htext, hc, hend, _⟩
      have hcloser : c ≠ Bracket.closer .list := hend
      rw [List.map_cons, separated_cons, List.append_assoc, itemText_append]
      rw [htext, List.cons_append] at hitem ⊢
      exact (pass_first ((afterGap_gap opening _).trans (afterGap_token item.before hc _))
        hcloser rfl).trans (hitem.trans hrest)

theorem passed_record {opening : Gap} {entries : List (Entry Form)}
    (h : ∀ entry ∈ entries, Passed entry.value) : Passed (.record opening entries) := by
  intro frames gap t _
  rw [recordText_append, pass_record (afterGap_token gap (by decide) _)]
  cases entries with
  | nil =>
      refine pass_empty ?_
      rw [List.map_nil, Value.separated, List.nil_append]
      exact afterGap_token opening (by decide) t
  | cons entry entries =>
      have hrest := pass_entries (fun other ho => h other (List.mem_cons_of_mem _ ho)) frames
        entry.after t
      have hentry := h entry List.mem_cons_self (.record :: frames) entry.beforeValue _
        (endsNumber_behind entry.after (entries.map Form.entryText) (endsNumber_recordEnd t))
      rw [List.map_cons, separated_cons, List.append_assoc, entryText_append]
      -- A key starts with a quote, so it does not look like the end of the record.
      have hkey := passKey_entry .none entry
        ((entries.map Form.entryText).flatMap (fun w => ',' :: w) ++ recordEnd :: t)
      rw [quotedText_append] at hkey ⊢
      exact (pass_first ((afterGap_gap opening _).trans (afterGap_token entry.before (by decide) _))
        (by decide) hkey).trans (hentry.trans hrest)

theorem passScalar_number {c : Char} (hc : startsNumber c = true) (r : List Char) :
    passScalar c r =
      (Literal.scan .badNumber (c == '-') (if c = '-' then r else c :: r)).map Prod.snd := by
  rw [passScalar, if_neg (ne_of_startsNumber hc (by decide)),
    if_neg (ne_of_startsNumber hc (by decide)), if_neg (ne_of_startsNumber hc (by decide)),
    if_pos hc]

theorem passed_number (token : NumberForm) : Passed (.number token) := by
  intro frames gap t ht
  have hgap := afterGap_form gap (.number token) t
  have hscan := token.scan_number .badNumber ht
  rcases token.text_starts with ⟨c, r, htext, hstart, hsign⟩
  have hscalar : passScalar c (r ++ t) = .ok t := by
    rw [passScalar_number hstart]
    -- The sign was taken before the digits are scanned.
    rcases hsign with ⟨hminus, rfl, rfl⟩ | ⟨hplus, hc, hr⟩
    · rw [hminus] at hscan
      rw [if_pos rfl]
      exact congrArg (Except.map Prod.snd) hscan
    · rw [hplus] at hscan
      rw [if_neg hc, ← List.cons_append, hr, beq_false_of_ne hc, hscan]
      rfl
  rw [Form.text, htext, List.cons_append] at hgap ⊢
  exact pass_scalar hgap (ne_of_startsNumber hstart (by decide))
    (ne_of_startsNumber hstart (by decide)) hscalar

theorem passed_quoted (pieces : List Piece) : Passed (.quoted pieces) := by
  intro frames gap t _
  have hgap := afterGap_form gap (.quoted pieces) t
  rcases scanText_passed pieces t with ⟨text, htext⟩
  have hscalar : passScalar '"' (pieces.flatMap Piece.text ++ '"' :: t) = .ok t :=
    congrArg (Except.map Prod.snd) htext
  rw [Form.text, quotedText_append] at hgap ⊢
  exact pass_scalar hgap (by decide) (by decide) hscalar

/-- Every form is passed over. -/
theorem passed (form : Form) : Passed form := by
  induction form using Form.induction with
  | null =>
      intro frames gap t _
      exact pass_scalar (afterGap_form gap .null t) (by decide) (by decide) rfl
  | truth value =>
      intro frames gap t _
      have hgap := afterGap_form gap (.truth value) t
      cases value <;> exact pass_scalar hgap (by decide) (by decide) rfl
  | number token => exact passed_number token
  | quoted pieces => exact passed_quoted pieces
  | list opening items ih => exact passed_list ih
  | record opening entries ih => exact passed_record ih

/-- The reader of any value ends behind it. -/
theorem run_anything (gap : Gap) (form : Form) {t : List Char} (ht : EndsNumber t) :
    Reader.anything.run (gap.chars ++ (form.text ++ t)) = .ok ((), t) := by
  have hpass := passed form [] gap t ht
  rw [pass] at hpass
  simp only [Reader.anything, hpass]
  rfl

end Json

end DashKit
