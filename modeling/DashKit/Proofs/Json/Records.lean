import DashKit.Json.Record
import DashKit.Json.Value
import DashKit.Proofs.Json.Nesting

/-!
# Records and Any Values With More Behind Them

The readers that have to cope with what they do not know: values under keys
that mean nothing to a record, records with some of their fields, and values
of any kind.

Passing over a value keeps track of the open brackets. While there are any,
the loop is not done and leaves something to itself, so only a number outside
of all brackets may go up to the end. The same number is what keeps the reader
of any value from being sealed: what it reads is a number if and only if what
follows may matter.

## Main definitions

* `Value.isNumber`: A value whose text may be continued.
* `Value.keep`: How the entries of a record of any values are read.

## Theorems

* `anything_local`: A value that is passed over.
* `shape_sealed`: Records with known fields.
* `Value.reader_append`: Any value, by what ends a number if it is one.
-/

namespace DashKit

namespace Json

theorem passScalar_append {c : Char} {r rest t : List Char} (h : passScalar c r = .ok rest)
    (ht : rest ≠ [] ∨ EndsNumber t) : passScalar c (r ++ t) = .ok (rest ++ t) := by
  unfold passScalar at h ⊢
  by_cases hn : c = 'n'
  · rw [if_pos hn] at h ⊢
    exact scanWord_append t h
  rw [if_neg hn] at h ⊢
  by_cases htrue : c = 't'
  · rw [if_pos htrue] at h ⊢
    exact scanWord_append t h
  rw [if_neg htrue] at h ⊢
  by_cases hfalse : c = 'f'
  · rw [if_pos hfalse] at h ⊢
    exact scanWord_append t h
  rw [if_neg hfalse] at h ⊢
  by_cases hnumber : startsNumber c = true
  · rw [if_pos hnumber] at h ⊢
    cases hs : Literal.scan .badNumber (c == '-') (if c = '-' then r else c :: r) with
    | error e => simp only [hs, Except.map, reduceCtorEq] at h
    | ok found =>
        simp only [hs, Except.map, Except.ok.injEq] at h
        rw [← h] at ht
        have happend := Literal.scan_local _ _ hs ht
        -- The sign was taken before the literal is scanned.
        by_cases hm : c = '-'
        · simp only [if_pos hm] at happend ⊢
          simp only [happend, Except.map, h]
        · simp only [if_neg hm, List.cons_append] at happend ⊢
          simp only [happend, Except.map, h]
  rw [if_neg hnumber] at h ⊢
  by_cases hq : c = '"'
  · rw [if_pos hq] at h ⊢
    cases hs : scanText false r with
    | error e => simp only [hs, Except.map, reduceCtorEq] at h
    | ok found =>
        simp only [hs, Except.map, Except.ok.injEq] at h
        simp only [scanText_sealed false t hs, Except.map, h]
  · rw [if_neg hq] at h
    simp only [failAfter, reduceCtorEq] at h

theorem passKey_append {bracket : Bracket} {s rest : List Char} (t : List Char)
    (h : passKey bracket s = .ok rest) : passKey bracket (s ++ t) = .ok (rest ++ t) := by
  cases bracket with
  | list =>
      simp only [passKey, Except.ok.injEq] at h ⊢
      rw [h]
  | record =>
      simp only [passKey] at h ⊢
      cases hg : afterGap s with
      | nil => simp only [hg, failAfter, reduceCtorEq] at h
      | cons c r =>
          rw [hg] at h
          rw [afterGap_append hg t]
          split at h
          · next hnil => exact absurd hnil (List.cons_ne_nil _ _)
          · next r' hr =>
              rw [List.cons.injEq] at hr
              rcases hr with ⟨rfl, rfl⟩
              cases hs : scanText false r with
              | error e => simp only [hs, reduceCtorEq] at h
              | ok found =>
                  simp only [hs] at h
                  simp only [scanText_sealed false t hs]
                  exact scanColon_append t h
          · simp only [failAfter, reduceCtorEq] at h

/-- Passing over the rest of a value goes the same way when more text follows.
    A phase that is not the last leaves something to the next one. -/
theorem pass_append {phase : Phase} {frames : List Bracket} {s rest t : List Char}
    (h : pass phase frames s = .ok rest) (ht : rest ≠ [] ∨ EndsNumber t) :
    pass phase frames (s ++ t) = .ok (rest ++ t) := by
  fun_induction pass phase frames s with
  | case1 s =>
      simp only [Except.ok.injEq] at h
      rw [pass, h]
  | case2 => simp only [failAfter, reduceCtorEq] at h
  | case3 => simp only [reduceCtorEq] at h
  -- A comma and, in a record, the next key.
  | case4 s bracket outer r u hk hg ih =>
      rw [pass, afterGap_append hg t]
      simp only [if_true]
      rw [passKey_append t hk]
      exact ih h
  -- The innermost bracket closes.
  | case5 s bracket outer r hg hc ih =>
      rw [pass, afterGap_append hg t]
      simp only [if_neg hc, if_true]
      exact ih h
  | case6 => simp only [failAfter, reduceCtorEq] at h
  | case7 => simp only [failAfter, reduceCtorEq] at h
  -- A bracket closes right after it was opened.
  | case8 s bracket frames r hg ih =>
      rw [pass, afterGap_append hg t]
      simp only [if_true]
      exact ih h
  | case9 => simp only [reduceCtorEq] at h
  -- The first item of a bracket, or its key.
  | case10 s bracket frames c r hg hc u hk ih =>
      rw [pass, afterGap_append hg t]
      simp only [if_neg hc]
      rw [← List.cons_append, passKey_append t hk]
      exact ih h
  | case11 => simp only [failAfter, reduceCtorEq] at h
  -- A value that opens a list or a record.
  | case12 s frames r hg ih =>
      rw [pass, afterGap_append hg t]
      simp only [if_true]
      exact ih h
  | case13 s frames r hg hc ih =>
      rw [pass, afterGap_append hg t]
      simp only [if_neg hc, if_true]
      exact ih h
  | case14 => simp only [reduceCtorEq] at h
  -- A value without brackets.
  | case15 s frames c r hg hl hr u hk ih =>
      have hu := ne_nil_or_of_length_le (pass_length h).1 ht
      rw [pass, afterGap_append hg t]
      simp only [if_neg hl, if_neg hr]
      rw [passScalar_append hk hu]
      exact ih h

theorem anything_local : Local Reader.anything.run := by
  intro s a rest t h ht
  simp only [Reader.anything] at h ⊢
  cases hp : pass .value [] s with
  | error e => simp only [hp, Except.map, reduceCtorEq] at h
  | ok u =>
      simp only [hp, Except.map, Except.ok.injEq, Prod.mk.injEq, true_and] at h
      rw [← h] at ht
      simp only [pass_append hp ht, Except.map, h]

/-- Whatever reader a key picks, it is local if those of the fields are. -/
theorem pickField_local {σ : Type} {fields : List (Field σ)}
    (hfields : ∀ field ∈ fields, Local field.reader.run) {progress : Progress σ} {key : String}
    {reader : Reader (Progress σ → Progress σ)} (h : pickField fields progress key = .ok reader) :
    Local reader.run := by
  unfold pickField at h
  split at h
  -- A key that names no field is passed over.
  · rw [Except.ok.injEq] at h
    rw [← h]
    exact Reader.map_local anything_local _
  · next field hf =>
      split at h
      · simp only [reduceCtorEq] at h
      · rw [Except.ok.injEq] at h
        rw [← h]
        exact Reader.map_local (hfields field (List.mem_of_find?_eq_some hf)) _

section Shapes

variable {σ α : Type} {shape : Shape σ α} {depth : Nat}

theorem scanNamed_local (hfields : ∀ field ∈ shape.fields depth, Local field.reader.run) :
    Local (scanNamed shape depth) := by
  intro s a rest t h ht
  unfold scanNamed at h ⊢
  cases hs : scanEntries (pickField (shape.fields depth)) true ⟨[], shape.blank⟩ s with
  | error e => simp only [hs, reduceCtorEq] at h
  | ok found =>
      simp only [hs] at h
      cases hf : shape.finish found.1.draft with
      | error name => simp only [hf, reduceCtorEq] at h
      | ok b =>
          simp only [hf, Except.ok.injEq, Prod.mk.injEq] at h
          rw [← h.2] at ht
          have happend := scanEntries_local (fun hp => pickField_local hfields hp) true _ hs ht
          simp only [happend, hf, h.1, h.2]

theorem scanInOrder_local {fields : List (Field σ)}
    (hfields : ∀ field ∈ fields, Local field.reader.run) (first : Bool) (draft : σ) :
    Local (scanInOrder fields first draft) := by
  intro s d rest t h ht
  induction fields generalizing first draft s with
  | nil =>
      simp only [scanInOrder, Except.ok.injEq, Prod.mk.injEq] at h ⊢
      exact ⟨h.1, by rw [h.2]⟩
  | cons field fields ih =>
      have hfield := hfields field List.mem_cons_self
      have hrest := fun other ho => hfields other (List.mem_cons_of_mem _ ho)
      simp only [scanInOrder] at h ⊢
      cases hi : scanItem field.reader first s with
      | error e => simp only [hi, reduceCtorEq] at h
      | ok found =>
          rcases found with ⟨change, u⟩
          cases change with
          | none =>
              simp only [hi, Except.ok.injEq, Prod.mk.injEq] at h
              rw [← h.2] at ht
              simp only [scanItem_local hfield first hi ht, h.1, h.2]
          | some change =>
              simp only [hi] at h
              -- The other fields leave something only if this one does.
              have hu := ne_nil_or_of_length_le (scanInOrder_length h) ht
              simp only [scanItem_local hfield first hi hu]
              exact ih hrest _ _ h

theorem scanListed_local (hfields : ∀ field ∈ shape.fields depth, Local field.reader.run) :
    Local (scanListed shape depth) := by
  intro s a rest t h ht
  unfold scanListed at h ⊢
  cases hs : scanInOrder (shape.fields depth) true shape.blank s with
  | error e => simp only [hs, reduceCtorEq] at h
  | ok found =>
      simp only [hs] at h
      cases hf : shape.finish found.1 with
      | error name => simp only [hf, reduceCtorEq] at h
      | ok b =>
          simp only [hf, Except.ok.injEq, Prod.mk.injEq] at h
          rw [← h.2] at ht
          simp only [scanInOrder_local hfields true _ hs ht, hf, h.1, h.2]

/-- A record of a shape may be followed by anything, written either way. -/
theorem shape_sealed (hfields : ∀ d, ∀ field ∈ shape.fields d, Local field.reader.run) :
    Sealed (Reader.shape depth shape).run := by
  refine Reader.ofStart_sealed ?_
  intro c r a rest t h
  by_cases hb : c = '\x7b'
  · rw [if_pos hb] at h ⊢
    rcases within_eq_ok.1 h with ⟨d, hd, h⟩
    exact within_eq_ok.2 ⟨d, hd, enclosed_sealed closeRecord_length closeRecord_append
      (scanNamed_local (hfields d)) t h⟩
  · rw [if_neg hb] at h ⊢
    by_cases hl : c = '['
    · rw [if_pos hl] at h ⊢
      rcases within_eq_ok.1 h with ⟨d, hd, h⟩
      exact within_eq_ok.2 ⟨d, hd, enclosed_sealed closeList_length closeList_append
        (scanListed_local (hfields d)) t h⟩
    · rw [if_neg hl] at h
      exact absurd h (reject_ne_ok _ _ _)

end Shapes

namespace Value

/-- A value whose text may be continued is a number. -/
def isNumber : Value → Bool
  | number _ => true
  | _ => false

/-- The reader for the value under a key of a record of any values: it is kept
    behind the others. -/
def keep (reader : Reader Value) : List (String × Value) → String →
    Except Cause (Reader (List (String × Value) → List (String × Value))) :=
  fun _ key => .ok (reader.map fun value members => members ++ [(key, value)])

theorem scanEntries_keep_local {reader : Reader Value} (hreader : Local reader.run) :
    Local (scanEntries (keep reader) true []) := by
  refine scanEntries_local ?_ true []
  intro members key picked hp
  rw [keep, Except.ok.injEq] at hp
  rw [← hp]
  exact Reader.map_local hreader _

/-- Of all values only numbers are read differently if something follows that
    does not end them. -/
theorem readerOver_append {inner : Option (Reader Value)}
    (hinner : ∀ reader ∈ inner, Local reader.run) {s rest t : List Char} {v : Value}
    (h : (readerOver inner).run s = .ok (v, rest))
    (ht : v.isNumber = false ∨ rest ≠ [] ∨ EndsNumber t) :
    (readerOver inner).run (s ++ t) = .ok (v, rest ++ t) := by
  refine Reader.run_ofStart_append ?_ h
  intro c r h
  by_cases hn : c = 'n'
  · rw [if_pos hn] at h ⊢
    exact scanKeyword_sealed _ _ t h
  rw [if_neg hn] at h ⊢
  by_cases htrue : c = 't'
  · rw [if_pos htrue] at h ⊢
    exact scanKeyword_sealed _ _ t h
  rw [if_neg htrue] at h ⊢
  by_cases hfalse : c = 'f'
  · rw [if_pos hfalse] at h ⊢
    exact scanKeyword_sealed _ _ t h
  rw [if_neg hfalse] at h ⊢
  by_cases hnumber : startsNumber c = true
  · rw [if_pos hnumber] at h ⊢
    cases hs : scanNumber (c :: r) with
    | error e => simp only [hs, reduceCtorEq] at h
    | ok found =>
        simp only [hs, Except.ok.injEq, Prod.mk.injEq] at h
        rcases h with ⟨rfl, rfl⟩
        -- Only here the value is a number.
        have happend := scanNumber_local hs
          (ht.resolve_left (by simp only [isNumber, Bool.true_eq_false, not_false_eq_true]))
        rw [List.cons_append] at happend
        simp only [happend]
  rw [if_neg hnumber] at h ⊢
  by_cases hq : c = '"'
  · rw [if_pos hq] at h ⊢
    cases hs : scanText true r with
    | error e => simp only [hs, reduceCtorEq] at h
    | ok found =>
        simp only [hs, Except.ok.injEq, Prod.mk.injEq] at h
        simp only [scanText_sealed true t hs, h.1, h.2]
  rw [if_neg hq] at h ⊢
  by_cases hl : c = '['
  · rw [if_pos hl] at h ⊢
    cases inner with
    | none => simp only [failAfter, reduceCtorEq] at h
    | some reader =>
        have hreader := hinner reader rfl
        cases he : enclosed closeList (scanItems reader true r) with
        | error e => simp only [he, reduceCtorEq] at h
        | ok found =>
            simp only [he, Except.ok.injEq, Prod.mk.injEq] at h
            have happend := enclosed_sealed closeList_length closeList_append
              (scanItems_local hreader true) t he
            simp only [happend, h.1, h.2]
  rw [if_neg hl] at h ⊢
  by_cases hr : c = '\x7b'
  · rw [if_pos hr] at h ⊢
    cases inner with
    | none => simp only [failAfter, reduceCtorEq] at h
    | some reader =>
        have hentries := scanEntries_keep_local (hinner reader rfl)
        dsimp only at h ⊢
        split at h
        · simp only [reduceCtorEq] at h
        · next found members u he =>
            simp only [Except.ok.injEq, Prod.mk.injEq] at h
            have happend := enclosed_sealed closeRecord_length closeRecord_append hentries t he
            unfold keep at happend
            simp only [happend, h.1, h.2]
  · rw [if_neg hr] at h
    simp only [failAfter, reduceCtorEq] at h

/-- By induction on the brackets that may be entered: the values in them are
    read with one bracket less. -/
theorem reader_append {depth : Nat} {s rest t : List Char} {v : Value}
    (h : (reader depth).run s = .ok (v, rest))
    (ht : v.isNumber = false ∨ rest ≠ [] ∨ EndsNumber t) :
    (reader depth).run (s ++ t) = .ok (v, rest ++ t) := by
  induction depth generalizing s v rest t with
  | zero =>
      refine readerOver_append ?_ h ht
      intro reader hr
      exact absurd hr (by simp only [Option.not_mem_none, not_false_eq_true])
  | succ depth ih =>
      refine readerOver_append ?_ h ht
      intro reader hr
      rw [← Option.some_inj.mp hr]
      exact fun _ _ _ _ hs hu => ih hs (Or.inr hu)

end Value

end Json

end DashKit
