import DashKit.Json.Bracketed
import DashKit.Proofs.Json.Tokens

/-!
# Readers With More Behind Them

What was read is read again when more text follows, brackets included.

A closing bracket is taken by whoever took the opening one, so what stands
between them always leaves something, and it does not matter there that a
number may go up to the end. From outside, something in brackets may therefore
be followed by anything, like a string. Only numbers, and what may be one, are
read in a way that is no more than local.

The contents of brackets are read in steps, each of which is told what the
others left. A step that leaves something was left something, which carries
the condition from the last step back to the first.

## Theorems

* `ofStart_sealed`, `ofStart_local`: Readers by what they do with a start.
* `scanItems_local`, `scanEntries_local`: The contents of brackets.
* `enclosed_sealed`: Brackets may be followed by anything.
* `list_sealed`, `pair_sealed`: So may lists and pairs.
-/

namespace DashKit

namespace Json

namespace Reader

variable {α β : Type}

theorem run_ofStart_append {body : Char → List Char → Outcome α}
    {law : ∀ {c r a rest}, body c r = .ok (a, rest) → rest.length ≤ r.length}
    {s rest t : List Char} {a : α}
    (hbody : ∀ c r, body c r = .ok (a, rest) → body c (r ++ t) = .ok (a, rest ++ t))
    (h : (ofStart body @law).run s = .ok (a, rest)) :
    (ofStart body @law).run (s ++ t) = .ok (a, rest ++ t) := by
  simp only [ofStart] at h ⊢
  cases hg : afterGap s with
  | nil => simp only [hg, failAfter, reduceCtorEq] at h
  | cons c r =>
      simp only [hg, afterGap_append hg t] at h ⊢
      exact hbody c r h

theorem ofStart_sealed {body : Char → List Char → Outcome α}
    {law : ∀ {c r a rest}, body c r = .ok (a, rest) → rest.length ≤ r.length}
    (hbody : ∀ c r a rest t, body c r = .ok (a, rest) → body c (r ++ t) = .ok (a, rest ++ t)) :
    Sealed (ofStart body @law).run := by
  intro s a rest t h
  exact run_ofStart_append (fun c r => hbody c r a rest t) h

theorem ofStart_local {body : Char → List Char → Outcome α}
    {law : ∀ {c r a rest}, body c r = .ok (a, rest) → rest.length ≤ r.length}
    (hbody : ∀ c r a rest t, body c r = .ok (a, rest) → rest ≠ [] ∨ EndsNumber t →
      body c (r ++ t) = .ok (a, rest ++ t)) : Local (ofStart body @law).run := by
  intro s a rest t h ht
  exact run_ofStart_append (fun c r hb => hbody c r a rest t hb ht) h

theorem map_local {reader : Reader α} (hreader : Local reader.run) (f : α → β) :
    Local (reader.map f).run := by
  intro s b rest t h ht
  simp only [map] at h ⊢
  cases hr : reader.run s with
  | error e => simp only [hr, reduceCtorEq] at h
  | ok found =>
      simp only [hr, Except.ok.injEq, Prod.mk.injEq] at h
      rw [← h.2] at ht
      simp only [hreader hr ht, h.1, h.2]

theorem truth_sealed : Sealed truth.run := by
  refine ofStart_sealed ?_
  intro c r a rest t h
  by_cases ht : c = 't'
  · rw [if_pos ht] at h ⊢
    exact scanKeyword_sealed _ _ t h
  · rw [if_neg ht] at h ⊢
    by_cases hf : c = 'f'
    · rw [if_pos hf] at h ⊢
      exact scanKeyword_sealed _ _ t h
    · rw [if_neg hf] at h
      exact absurd h (reject_ne_ok _ _ _)

theorem unit_sealed : Sealed unit.run := by
  refine ofStart_sealed ?_
  intro c r a rest t h
  by_cases hn : c = 'n'
  · rw [if_pos hn] at h ⊢
    exact scanKeyword_sealed _ _ t h
  · rw [if_neg hn] at h
    exact absurd h (reject_ne_ok _ _ _)

theorem quoted_sealed (expected : String) (accept : String → Except Cause α) :
    Sealed (quoted expected accept).run := by
  refine ofStart_sealed ?_
  intro c r a rest t h
  by_cases hq : c = '"'
  · rw [if_pos hq] at h ⊢
    cases hs : scanText true r with
    | error e => simp only [hs, reduceCtorEq] at h
    | ok found =>
        simp only [hs, scanText_sealed true t hs] at h ⊢
        cases ha : accept (String.ofList found.1) with
        | error cause => simp only [ha, failBefore, reduceCtorEq] at h
        | ok b =>
            simp only [ha, Except.ok.injEq, Prod.mk.injEq] at h ⊢
            exact ⟨h.1, by rw [h.2]⟩
  · rw [if_neg hq] at h
    exact absurd h (reject_ne_ok _ _ _)

theorem char_sealed : Sealed char.run :=
  quoted_sealed _ _

theorem word32_local : Local word32.run := by
  refine ofStart_local ?_
  intro c r a rest t h ht
  by_cases hn : startsNumber c = true
  · rw [if_pos hn] at h ⊢
    cases hs : scanNumber (c :: r) with
    | error e => simp only [hs, reduceCtorEq] at h
    | ok found =>
        rcases found with ⟨n, left⟩
        cases n with
        | natural n =>
            simp only [hs] at h
            by_cases hlt : n < UInt32.size
            · rw [if_pos hlt, Except.ok.injEq, Prod.mk.injEq] at h
              rw [← h.2] at ht
              have happend := scanNumber_local hs ht
              rw [List.cons_append] at happend
              simp only [happend, if_pos hlt, h.1, h.2]
            · simp only [if_neg hlt, failBefore, reduceCtorEq] at h
        | negative n => simp only [hs, failBefore, reduceCtorEq] at h
        | real x => simp only [hs, failBefore, reduceCtorEq] at h
  · rw [if_neg hn] at h
    exact absurd h (reject_ne_ok _ _ _)

/-- All but `null` is left to the reader of the value. -/
theorem run_optional_of_ne (reader : Reader α) {s r : List Char} {c : Char}
    (hg : afterGap s = c :: r) (hc : c ≠ 'n') :
    reader.optional.run s = (reader.map some).run (c :: r) := by
  simp only [optional, hg]
  split
  · next t ht => exact absurd (List.cons.inj ht).1 hc
  · rfl

theorem optional_local {reader : Reader α} (hreader : Local reader.run) :
    Local reader.optional.run := by
  intro s a rest t h ht
  cases hg : afterGap s with
  | nil =>
      simp only [optional, hg] at h
      exact absurd ((reader.map some).shrinks h) (Nat.not_lt_zero _)
  | cons c r =>
      have hgt := afterGap_append hg t
      -- The word itself may be followed by anything, what stands for a value
      -- by what may follow the value.
      by_cases hc : c = 'n'
      · subst hc
        simp only [optional, hg, hgt] at h ⊢
        exact scanKeyword_sealed _ _ t h
      · rw [run_optional_of_ne reader hg hc] at h
        rw [run_optional_of_ne reader hgt hc]
        exact map_local hreader some h ht

end Reader

theorem scanColon_append {s rest : List Char} (t : List Char) (h : scanColon s = .ok rest) :
    scanColon (s ++ t) = .ok (rest ++ t) := by
  unfold scanColon at h ⊢
  cases hg : afterGap s with
  | nil => simp only [hg, failAfter, reduceCtorEq] at h
  | cons c r =>
      rw [hg] at h
      rw [afterGap_append hg t]
      split at h
      · next hnil => exact absurd hnil (List.cons_ne_nil _ _)
      · next r' hr =>
          rw [List.cons.injEq] at hr
          rcases hr with ⟨rfl, rfl⟩
          simp only [Except.ok.injEq] at h ⊢
          rw [h]
      · simp only [failAfter, reduceCtorEq] at h

theorem scanMember_sealed {α : Type} (members : List (String × α)) :
    Sealed (scanMember members) := by
  intro s a rest t h
  unfold scanMember at h ⊢
  cases hs : scanText true s with
  | error e => simp only [hs, reduceCtorEq] at h
  | ok found =>
      simp only [hs, scanText_sealed true t hs] at h ⊢
      cases hf : members.find? fun member => member.1 == String.ofList found.1 with
      | none => simp only [hf, failBefore, reduceCtorEq] at h
      | some member =>
          simp only [hf, Except.ok.injEq, Prod.mk.injEq] at h ⊢
          exact ⟨h.1, by rw [h.2]⟩

theorem scanNothing_sealed {α : Type} (value : α) : Sealed (scanNothing value) := by
  intro s a rest t h
  unfold scanNothing at h ⊢
  cases hc : scanColon s with
  | error e => simp only [hc, reduceCtorEq] at h
  | ok s1 =>
      cases hu : Reader.unit.run s1 with
      | error e => simp only [hc, hu, reduceCtorEq] at h
      | ok found =>
          simp only [hc, hu, scanColon_append t hc, Reader.unit_sealed t hu] at h ⊢
          cases hg : afterGap found.2 with
          | nil => simp only [hg, failBefore, reduceCtorEq] at h
          | cons c r =>
              rw [hg] at h
              rw [afterGap_append hg t]
              split at h
              · next hnil => exact absurd hnil (List.cons_ne_nil _ _)
              · next r' hr =>
                  rw [List.cons.injEq] at hr
                  rcases hr with ⟨rfl, rfl⟩
                  simp only [Except.ok.injEq, Prod.mk.injEq] at h ⊢
                  exact ⟨h.1, by rw [h.2]⟩
              · simp only [failBefore, reduceCtorEq] at h

theorem scanTagged_sealed {α : Type} (members : List (String × α)) :
    Sealed (scanTagged members) := by
  intro s a rest t h
  unfold scanTagged at h ⊢
  cases hg : afterGap s with
  | nil => simp only [hg, failAfter, reduceCtorEq] at h
  | cons c r =>
      rw [hg] at h
      rw [afterGap_append hg t]
      split at h
      · next hnil => exact absurd hnil (List.cons_ne_nil _ _)
      · simp only [failAfter, reduceCtorEq] at h
      · next r' hr =>
          rw [List.cons.injEq] at hr
          rcases hr with ⟨rfl, rfl⟩
          cases hm : scanMember members r with
          | error e => simp only [hm, reduceCtorEq] at h
          | ok found =>
              simp only [hm] at h
              simp only [scanMember_sealed members t hm]
              exact scanNothing_sealed found.1 t h
      · simp only [failAfter, reduceCtorEq] at h

theorem member_sealed {α : Type} (depth : Nat) (members : List (String × α)) :
    Sealed (Reader.member depth members).run := by
  refine Reader.ofStart_sealed ?_
  intro c r a rest t h
  by_cases hq : c = '"'
  · rw [if_pos hq] at h ⊢
    exact scanMember_sealed members t h
  · rw [if_neg hq] at h ⊢
    by_cases hb : c = '\x7b'
    · rw [if_pos hb] at h ⊢
      rcases within_eq_ok.1 h with ⟨d, hd, h⟩
      exact within_eq_ok.2 ⟨d, hd, scanTagged_sealed members t h⟩
    · rw [if_neg hb] at h
      simp only [failAfter, reduceCtorEq] at h

theorem nextItem_sealed (first : Bool) : Sealed (nextItem first) := by
  intro s more rest t h
  unfold nextItem at h ⊢
  cases hg : afterGap s with
  | nil => simp only [hg, failAfter, reduceCtorEq] at h
  | cons c r =>
      simp only [hg, afterGap_append hg t] at h ⊢
      by_cases he : c = listEnd
      -- The list is over, and its bracket is left in place.
      · rw [if_pos he, Except.ok.injEq, Prod.mk.injEq] at h
        rw [if_pos he, h.1, ← h.2]
        rfl
      · rw [if_neg he] at h ⊢
        by_cases hf : first = true
        -- The first item starts right here.
        · rw [if_pos hf, Except.ok.injEq, Prod.mk.injEq] at h
          rw [if_pos hf, h.1, ← h.2]
          rfl
        -- A later one starts behind the comma and its gap.
        · rw [if_neg hf] at h ⊢
          by_cases hc : c = ','
          · rw [if_pos hc] at h ⊢
            cases hr : afterGap r with
            | nil => simp only [hr, failAfter, reduceCtorEq] at h
            | cons d u =>
                simp only [hr, afterGap_append hr t] at h ⊢
                by_cases hd : d = listEnd
                · rw [if_pos hd] at h
                  simp only [failAfter, reduceCtorEq] at h
                · rw [if_neg hd, Except.ok.injEq, Prod.mk.injEq] at h
                  rw [if_neg hd, h.1, ← h.2]
                  rfl
          · rw [if_neg hc] at h
            simp only [failAfter, reduceCtorEq] at h

theorem scanItem_local {α : Type} {reader : Reader α} (hreader : Local reader.run)
    (first : Bool) : Local (scanItem reader first) := by
  intro s a rest t h ht
  unfold scanItem at h ⊢
  cases hn : nextItem first s with
  | error e => simp only [hn, reduceCtorEq] at h
  | ok found =>
      rcases found with ⟨more, u⟩
      simp only [nextItem_sealed first t hn]
      cases more with
      | false =>
          simp only [hn, Except.ok.injEq, Prod.mk.injEq] at h ⊢
          exact ⟨h.1, by rw [h.2]⟩
      | true =>
          cases hr : reader.run u with
          | error e => simp only [hn, hr, reduceCtorEq] at h
          | ok item =>
              simp only [hn, hr, Except.ok.injEq, Prod.mk.injEq] at h
              rw [← h.2] at ht
              simp only [hreader hr ht, h.1, h.2]

theorem consItem_eq_ok {α : Type} {a : α} {read : Outcome (List α)} {items : List α}
    {rest : List Char} :
    consItem a read = .ok (items, rest) ↔
      ∃ others, read = .ok (others, rest) ∧ items = a :: others := by
  cases read with
  | error e => simp only [consItem, reduceCtorEq, false_and, exists_const]
  | ok found =>
      simp only [consItem, Except.ok.injEq, Prod.mk.injEq]
      constructor
      · rintro ⟨rfl, rfl⟩
        exact ⟨found.1, rfl, rfl⟩
      · rintro ⟨others, rfl, rfl⟩
        exact ⟨rfl, rfl⟩

theorem scanItems_local {α : Type} {reader : Reader α} (hreader : Local reader.run)
    (first : Bool) : Local (scanItems reader first) := by
  intro s items rest t h ht
  fun_induction scanItems reader first s generalizing items rest with
  | case1 => simp only [reduceCtorEq] at h
  -- The bracket was found.
  | case2 first s u hi =>
      simp only [Except.ok.injEq, Prod.mk.injEq] at h
      rcases h with ⟨rfl, rfl⟩
      rw [scanItems, scanItem_local hreader first hi ht]
  -- The other items leave something only if this one does.
  | case3 first s a u hi ih =>
      rcases consItem_eq_ok.1 h with ⟨others, hrest, rfl⟩
      have hu := ne_nil_or_of_length_le (scanItems_length hrest) ht
      rw [scanItems, scanItem_local hreader first hi hu]
      exact consItem_eq_ok.2 ⟨others, ih hrest ht, rfl⟩

theorem scanKeyText_sealed : Sealed scanKeyText := by
  intro s key rest t h
  unfold scanKeyText at h
  split at h
  · next r =>
      cases hs : scanText true r with
      | error e => simp only [hs, reduceCtorEq] at h
      | ok found =>
          simp only [hs, Except.ok.injEq, Prod.mk.injEq] at h
          simp only [List.cons_append, scanKeyText, scanText_sealed true t hs, h.1, h.2]
  · simp only [failAfter, reduceCtorEq] at h

theorem scanKey_sealed (first : Bool) : Sealed (scanKey first) := by
  intro s key rest t h
  unfold scanKey at h ⊢
  cases hg : afterGap s with
  | nil => simp only [hg, failAfter, reduceCtorEq] at h
  | cons c r =>
      simp only [hg, afterGap_append hg t] at h ⊢
      by_cases he : c = recordEnd
      -- The record is over, and its bracket is left in place.
      · rw [if_pos he, Except.ok.injEq, Prod.mk.injEq] at h
        rw [if_pos he, h.1, ← h.2]
        rfl
      · rw [if_neg he] at h ⊢
        by_cases hf : first = true
        -- The first key starts right here.
        · rw [if_pos hf] at h ⊢
          exact scanKeyText_sealed t h
        -- A later one starts behind the comma and its gap.
        · rw [if_neg hf] at h ⊢
          by_cases hc : c = ','
          · rw [if_pos hc] at h ⊢
            cases hr : afterGap r with
            | nil => simp only [hr, failAfter, reduceCtorEq] at h
            | cons d u =>
                simp only [hr, afterGap_append hr t] at h ⊢
                by_cases hd : d = recordEnd
                · rw [if_pos hd] at h
                  simp only [failAfter, reduceCtorEq] at h
                · rw [if_neg hd] at h ⊢
                  exact scanKeyText_sealed t h
          · rw [if_neg hc] at h
            simp only [failAfter, reduceCtorEq] at h

theorem scanEntry_local {α : Type} {pick : String → Except Cause (Reader α)}
    (hpick : ∀ {key reader}, pick key = .ok reader → Local reader.run) (first : Bool) :
    Local (scanEntry pick first) := by
  intro s a rest t h ht
  unfold scanEntry at h ⊢
  cases hk : scanKey first s with
  | error e => simp only [hk, reduceCtorEq] at h
  | ok found =>
      rcases found with ⟨key, u⟩
      simp only [scanKey_sealed first t hk]
      cases key with
      | none =>
          simp only [hk, Except.ok.injEq, Prod.mk.injEq] at h ⊢
          exact ⟨h.1, by rw [h.2]⟩
      | some key =>
          simp only [hk] at h
          cases hp : pick key with
          | error cause => simp only [hp, reduceCtorEq] at h
          | ok reader =>
              -- Key and colon may be followed by anything, the value may not.
              cases hc : scanColon u with
              | error e => simp only [hp, hc, reduceCtorEq] at h
              | ok v =>
                  cases hr : reader.run v with
                  | error e => simp only [hp, hc, hr, reduceCtorEq] at h
                  | ok value =>
                      simp only [hp, hc, hr, Except.ok.injEq, Prod.mk.injEq] at h
                      rw [← h.2] at ht
                      simp only [hp, scanColon_append t hc, hpick hp hr ht, h.1, h.2]

theorem scanEntries_local {β : Type} {pick : β → String → Except Cause (Reader (β → β))}
    (hpick : ∀ {b key reader}, pick b key = .ok reader → Local reader.run) (first : Bool) (b : β) :
    Local (scanEntries pick first b) := by
  intro s result rest t h ht
  fun_induction scanEntries pick first b s with
  | case1 => simp only [reduceCtorEq] at h
  | case2 first b s u hi =>
      simp only [Except.ok.injEq, Prod.mk.injEq] at h
      rcases h with ⟨rfl, rfl⟩
      rw [scanEntries, scanEntry_local hpick first hi ht]
  -- The other entries leave something only if this one does.
  | case3 first b s change u hi ih =>
      have hu := ne_nil_or_of_length_le (scanEntries_length h) ht
      rw [scanEntries, scanEntry_local hpick first hi hu]
      exact ih h

theorem closeList_append {s rest : List Char} (t : List Char) (h : closeList s = (none, rest)) :
    closeList (s ++ t) = (none, rest ++ t) := by
  unfold closeList at h ⊢
  cases hg : afterGap s with
  | nil => simp only [hg, Prod.mk.injEq, reduceCtorEq, false_and] at h
  | cons c r =>
      simp only [hg, afterGap_append hg t] at h ⊢
      by_cases he : c = listEnd
      · rw [if_pos he, Prod.mk.injEq] at h
        rw [if_pos he, h.2]
      · rw [if_neg he] at h
        split at h
        · split at h
          · simp only [Prod.mk.injEq, reduceCtorEq, false_and] at h
          · split at h <;> simp only [Prod.mk.injEq, reduceCtorEq, false_and] at h
        · simp only [Prod.mk.injEq, reduceCtorEq, false_and] at h

theorem closeRecord_append {s rest : List Char} (t : List Char)
    (h : closeRecord s = (none, rest)) : closeRecord (s ++ t) = (none, rest ++ t) := by
  unfold closeRecord at h ⊢
  cases hg : afterGap s with
  | nil => simp only [hg, Prod.mk.injEq, reduceCtorEq, false_and] at h
  | cons c r =>
      simp only [hg, afterGap_append hg t] at h ⊢
      by_cases he : c = recordEnd
      · rw [if_pos he, Prod.mk.injEq] at h
        rw [if_pos he, h.2]
      · rw [if_neg he] at h
        split at h <;> simp only [Prod.mk.injEq, reduceCtorEq, false_and] at h

/-- What is in brackets may be followed by anything: the contents leave the
    closing bracket, so it does not matter how far they are read. -/
theorem enclosed_sealed {α : Type} {close : List Char → Option Cause × List Char}
    (hlength : ∀ {s rest}, close s = (none, rest) → rest.length < s.length)
    (happend : ∀ {s rest} t, close s = (none, rest) → close (s ++ t) = (none, rest ++ t))
    {contents : List Char → Outcome α} (hcontents : Local contents) :
    Sealed fun s => enclosed close (contents s) := by
  intro s a rest t h
  rcases enclosed_eq_ok.1 h with ⟨u, hu, hclose⟩
  have hne : u ≠ [] := List.ne_nil_of_length_pos (Nat.zero_lt_of_lt (hlength hclose))
  exact enclosed_eq_ok.2 ⟨u ++ t, hcontents hu (Or.inl hne), happend t hclose⟩

theorem list_sealed {α : Type} (depth : Nat) {item : Nat → Reader α}
    (hitem : ∀ d, Local (item d).run) : Sealed (Reader.list depth item).run := by
  refine Reader.ofStart_sealed ?_
  intro c r a rest t h
  by_cases hb : c = '['
  · rw [if_pos hb] at h ⊢
    rcases within_eq_ok.1 h with ⟨d, hd, h⟩
    exact within_eq_ok.2 ⟨d, hd, enclosed_sealed closeList_length closeList_append
      (scanItems_local (hitem d) true) t h⟩
  · rw [if_neg hb] at h
    exact absurd h (reject_ne_ok _ _ _)

theorem scanPair_local {α β : Type} {one : Reader α} {other : Reader β}
    (hone : Local one.run) (hother : Local other.run) : Local (Reader.scanPair one other) := by
  intro s p rest t h ht
  unfold Reader.scanPair at h ⊢
  cases h1 : scanItem one true s with
  | error e => simp only [h1, reduceCtorEq] at h
  | ok found =>
      rcases found with ⟨a, u⟩
      cases a with
      | none => simp only [h1, reduceCtorEq] at h
      | some a =>
          cases h2 : scanItem other false u with
          | error e => simp only [h1, h2, reduceCtorEq] at h
          | ok found =>
              rcases found with ⟨b, v⟩
              cases b with
              | none => simp only [h1, h2, reduceCtorEq] at h
              | some b =>
                  simp only [h1, h2, Except.ok.injEq, Prod.mk.injEq] at h
                  rw [← h.2] at ht
                  -- The first item leaves what the second one is read from.
                  have hu := ne_nil_or_of_length_le (Nat.le_of_lt (scanItem_length h2)) ht
                  simp only [scanItem_local hone true h1 hu, scanItem_local hother false h2 ht,
                    h.1, h.2]

theorem pair_sealed {α β : Type} (depth : Nat) {one : Nat → Reader α} {other : Nat → Reader β}
    (hone : ∀ d, Local (one d).run) (hother : ∀ d, Local (other d).run) :
    Sealed (Reader.pair depth one other).run := by
  refine Reader.ofStart_sealed ?_
  intro c r a rest t h
  by_cases hb : c = '['
  · rw [if_pos hb] at h ⊢
    rcases within_eq_ok.1 h with ⟨d, hd, h⟩
    exact within_eq_ok.2 ⟨d, hd, enclosed_sealed closeList_length closeList_append
      (scanPair_local (hone d) (hother d)) t h⟩
  · rw [if_neg hb] at h
    exact absurd h (reject_ne_ok _ _ _)

end Json

end DashKit
