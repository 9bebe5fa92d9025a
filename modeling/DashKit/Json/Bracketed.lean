import DashKit.Json.Reader

/-!
# Lists and Records of JSON

What stands between brackets: the steps from one item or entry to the next,
the loops over them, and the closing bracket.

The first item of a list needs no comma and the later ones do, so each step is
told whether it is the first. A step either finds that the list is over,
leaving the bracket where it is, or reads one more item; the loops repeat it
until it finds the end.

The closing bracket is taken by `enclosed`, whether or not the contents could
be read. Contents that failed decide the complaint, but one that is still
loose is placed behind whatever the closing took.

## Main definitions

* `scanItem`, `scanEntry`: The next item of a list or entry of a record.
* `scanItems`, `scanEntries`: All of them.
* `closeList`, `closeRecord`, `enclosed`: The closing bracket.
* `Reader.list`, `Reader.pair`: Lists of any length and of two.

## Theorems

* `scanItem_length`, `scanEntry_length`: An item or an entry takes at least one
  character, which is why the loops end.
* `enclosed_length`: So do the brackets around the contents.
-/

namespace DashKit

namespace Json

/-- The bracket that ends a list. -/
def listEnd : Char := ']'

/-- The bracket that ends a record. -/
def recordEnd : Char := '\x7d'

/-- Moves to the next item of a list. Nothing is left in front of it; at the
    end of the list, the bracket is. -/
def nextItem (first : Bool) (s : List Char) : Except Failure (Bool × List Char) :=
  match afterGap s with
  | [] => failAfter .listEnded []
  | c :: r =>
      if c = listEnd then .ok (false, c :: r)
      else if first then .ok (true, c :: r)
      else if c = ',' then
        match afterGap r with
        | [] => failAfter .valueEnded []
        | d :: t => if d = listEnd then failAfter .trailingComma (d :: t) else .ok (true, d :: t)
      else failAfter .listSeparatorExpected (c :: r)

/-- A move only takes from the text. -/
theorem nextItem_length {first more : Bool} {s rest : List Char}
    (h : nextItem first s = .ok (more, rest)) : rest.length ≤ s.length := by
  unfold nextItem at h
  have hs := afterGap_length s
  split at h
  · simp [failAfter] at h
  · next c r hg =>
      rw [hg, List.length_cons] at hs
      split at h
      -- The list is over: its bracket is left in place.
      · simp only [Except.ok.injEq, Prod.mk.injEq] at h
        rw [← h.2, List.length_cons]
        exact hs
      · split at h
        -- The first item starts right here.
        · simp only [Except.ok.injEq, Prod.mk.injEq] at h
          rw [← h.2, List.length_cons]
          exact hs
        · split at h
          -- A later one starts behind the comma and its gap.
          · have hr := afterGap_length r
            split at h
            · simp [failAfter] at h
            · next d t ht =>
                rw [ht] at hr
                split at h
                · simp [failAfter] at h
                · simp only [Except.ok.injEq, Prod.mk.injEq] at h
                  rw [← h.2]
                  omega
          · simp [failAfter] at h

/-- The next item of a list, unless the list is over. -/
def scanItem {α : Type} (reader : Reader α) (first : Bool) (s : List Char) :
    Outcome (Option α) :=
  match nextItem first s with
  | .error e => .error e
  | .ok (false, rest) => .ok (none, rest)
  | .ok (true, t) =>
      match reader.run t with
      | .error e => .error e
      | .ok (a, rest) => .ok (some a, rest)

/-- An item takes at least one character. -/
theorem scanItem_length {α : Type} {reader : Reader α} {first : Bool} {s rest : List Char}
    {a : α} (h : scanItem reader first s = .ok (some a, rest)) : rest.length < s.length := by
  unfold scanItem at h
  split at h
  · simp at h
  · simp at h
  · next t ht =>
      split at h
      · simp at h
      · next hr =>
          simp only [Except.ok.injEq, Prod.mk.injEq] at h
          have l1 := nextItem_length ht
          have l2 := reader.shrinks hr
          rw [← h.2]
          omega

/-- The end of a list only takes from the text. -/
theorem scanItem_none_length {α : Type} {reader : Reader α} {first : Bool}
    {s rest : List Char} (h : scanItem reader first s = .ok (none, rest)) :
    rest.length ≤ s.length := by
  unfold scanItem at h
  split at h
  · simp at h
  · next ht =>
      simp only [Except.ok.injEq, Prod.mk.injEq, true_and] at h
      rw [← h]
      exact nextItem_length ht
  · split at h
    · simp at h
    · simp at h

/-- An item in front of the items that were read. -/
def consItem {α : Type} (a : α) (read : Outcome (List α)) : Outcome (List α) :=
  match read with
  | .error e => .error e
  | .ok (items, rest) => .ok (a :: items, rest)

/-- The items of a list up to its bracket. -/
def scanItems {α : Type} (reader : Reader α) (first : Bool) (s : List Char) :
    Outcome (List α) :=
  match _h : scanItem reader first s with
  | .error e => .error e
  | .ok (none, rest) => .ok ([], rest)
  | .ok (some a, rest) => consItem a (scanItems reader false rest)
  termination_by s.length
  decreasing_by exact scanItem_length _h

/-- The items of a list only take from the text. -/
theorem scanItems_length {α : Type} {reader : Reader α} {first : Bool} {s rest : List Char}
    {items : List α} (h : scanItems reader first s = .ok (items, rest)) :
    rest.length ≤ s.length := by
  fun_induction scanItems reader first s generalizing items rest with
  | case1 => simp at h
  | case2 first s r hi =>
      simp only [Except.ok.injEq, Prod.mk.injEq] at h
      rw [← h.2]
      exact scanItem_none_length hi
  | case3 first s a r hi ih =>
      unfold consItem at h
      split at h
      · simp at h
      · next hr =>
          simp only [Except.ok.injEq, Prod.mk.injEq] at h
          have l1 := scanItem_length hi
          have l2 := ih hr
          rw [← h.2]
          omega

/-- A key with its quotes, where one has to stand. -/
def scanKeyText : List Char → Outcome (Option String)
  | '"' :: r =>
      match scanText true r with
      | .error e => .error e
      | .ok (text, rest) => .ok (some (String.ofList text), rest)
  | s => failAfter .keyNotText s

/-- A key takes at least one character. -/
theorem scanKeyText_length {s rest : List Char} {key : Option String}
    (h : scanKeyText s = .ok (key, rest)) : rest.length < s.length := by
  unfold scanKeyText at h
  split at h
  · split at h
    · simp at h
    · next ht =>
        simp only [Except.ok.injEq, Prod.mk.injEq] at h
        rw [← h.2]
        exact Nat.lt_succ_of_lt (scanText_length ht)
  · simp [failAfter] at h

/-- The next key of a record, unless the record is over. Then the bracket is
    left where it is. -/
def scanKey (first : Bool) (s : List Char) : Outcome (Option String) :=
  match afterGap s with
  | [] => failAfter .recordEnded []
  | c :: r =>
      if c = recordEnd then .ok (none, c :: r)
      else if first then scanKeyText (c :: r)
      else if c = ',' then
        match afterGap r with
        | [] => failAfter .valueEnded []
        | d :: t =>
            if d = recordEnd then failAfter .trailingComma (d :: t) else scanKeyText (d :: t)
      else failAfter .recordSeparatorExpected (c :: r)

/-- A key only takes from the text. -/
theorem scanKey_length {first : Bool} {s rest : List Char} {key : Option String}
    (h : scanKey first s = .ok (key, rest)) : rest.length ≤ s.length := by
  unfold scanKey at h
  have hs := afterGap_length s
  split at h
  · simp [failAfter] at h
  · next c r hg =>
      rw [hg, List.length_cons] at hs
      split at h
      -- The record is over: its bracket is left in place.
      · simp only [Except.ok.injEq, Prod.mk.injEq] at h
        rw [← h.2, List.length_cons]
        exact hs
      · split at h
        -- The first key starts right here.
        · have := scanKeyText_length h
          rw [List.length_cons] at this
          omega
        · split at h
          -- A later one starts behind the comma and its gap.
          · have hr := afterGap_length r
            split at h
            · simp [failAfter] at h
            · next d t ht =>
                rw [ht] at hr
                split at h
                · simp [failAfter] at h
                · have := scanKeyText_length h
                  omega
          · simp [failAfter] at h

/-- The next entry of a record, unless the record is over. The reader of the
    value is picked by the key; a key that is refused is refused before its
    colon. -/
def scanEntry {α : Type} (pick : String → Except Cause (Reader α)) (first : Bool)
    (s : List Char) : Outcome (Option α) :=
  match scanKey first s with
  | .error e => .error e
  | .ok (none, rest) => .ok (none, rest)
  | .ok (some key, rest) =>
      match pick key with
      | .error cause => .error (.loose cause rest)
      | .ok reader =>
          match scanColon rest with
          | .error e => .error e
          | .ok t =>
              match reader.run t with
              | .error e => .error e
              | .ok (a, rest) => .ok (some a, rest)

/-- An entry takes at least one character. -/
theorem scanEntry_length {α : Type} {pick : String → Except Cause (Reader α)} {first : Bool}
    {s rest : List Char} {a : α} (h : scanEntry pick first s = .ok (some a, rest)) :
    rest.length < s.length := by
  unfold scanEntry at h
  split at h
  · simp at h
  · simp at h
  · next hk =>
      split at h
      · simp at h
      · next reader _ =>
          split at h
          · simp at h
          · next hc =>
              split at h
              · simp at h
              · next hr =>
                  simp only [Except.ok.injEq, Prod.mk.injEq] at h
                  -- Key, colon and value each leave less, or no more, than they found.
                  have l1 := scanKey_length hk
                  have l2 := scanColon_length hc
                  have l3 := reader.shrinks hr
                  rw [← h.2]
                  omega

/-- The end of a record only takes from the text. -/
theorem scanEntry_none_length {α : Type} {pick : String → Except Cause (Reader α)}
    {first : Bool} {s rest : List Char} (h : scanEntry pick first s = .ok (none, rest)) :
    rest.length ≤ s.length := by
  unfold scanEntry at h
  split at h
  · simp at h
  · next hk =>
      simp only [Except.ok.injEq, Prod.mk.injEq, true_and] at h
      rw [← h]
      exact scanKey_length hk
  · split at h
    · simp at h
    · split at h
      · simp at h
      · split at h
        · simp at h
        · simp at h

/-- The entries of a record up to its bracket. Each entry is read as a change
    to what the entries before it amount to, and may depend on it. -/
def scanEntries {β : Type} (pick : β → String → Except Cause (Reader (β → β)))
    (first : Bool) (b : β) (s : List Char) : Outcome β :=
  match _h : scanEntry (pick b) first s with
  | .error e => .error e
  | .ok (none, rest) => .ok (b, rest)
  | .ok (some change, rest) => scanEntries pick false (change b) rest
  termination_by s.length
  decreasing_by exact scanEntry_length _h

/-- The entries of a record only take from the text. -/
theorem scanEntries_length {β : Type} {pick : β → String → Except Cause (Reader (β → β))}
    {first : Bool} {b result : β} {s rest : List Char}
    (h : scanEntries pick first b s = .ok (result, rest)) : rest.length ≤ s.length := by
  fun_induction scanEntries pick first b s with
  | case1 => simp at h
  | case2 first b s r hi =>
      simp only [Except.ok.injEq, Prod.mk.injEq] at h
      rw [← h.2]
      exact scanEntry_none_length hi
  | case3 first b s change r hi ih =>
      have l1 := scanEntry_length hi
      have l2 := ih h
      omega

/-- The end of a list: what is wrong with it, if anything, and what is left. -/
def closeList (s : List Char) : Option Cause × List Char :=
  match afterGap s with
  | [] => (some .listEnded, [])
  | c :: r =>
      if c = listEnd then (none, r)
      else if c = ',' then
        match afterGap r with
        | [] => (some .trailingCharacters, [])
        | d :: t =>
            if d = listEnd then (some .trailingComma, d :: t)
            else (some .trailingCharacters, d :: t)
      else (some .trailingCharacters, c :: r)

/-- The end of a record: what is wrong with it, if anything, and what is left. -/
def closeRecord (s : List Char) : Option Cause × List Char :=
  match afterGap s with
  | [] => (some .recordEnded, [])
  | c :: r =>
      if c = recordEnd then (none, r)
      else if c = ',' then (some .trailingComma, c :: r)
      else (some .trailingCharacters, c :: r)

/-- The end of a list takes its bracket. -/
theorem closeList_length {s rest : List Char} (h : closeList s = (none, rest)) :
    rest.length < s.length := by
  unfold closeList at h
  have hs := afterGap_length s
  split at h
  · simp at h
  · next c r hg =>
      rw [hg, List.length_cons] at hs
      split at h
      · simp only [Prod.mk.injEq, true_and] at h
        rw [← h]
        omega
      · split at h
        · split at h
          · simp at h
          · split at h <;> simp at h
        · simp at h

/-- The end of a record takes its bracket. -/
theorem closeRecord_length {s rest : List Char} (h : closeRecord s = (none, rest)) :
    rest.length < s.length := by
  unfold closeRecord at h
  have hs := afterGap_length s
  split at h
  · simp at h
  · next c r hg =>
      rw [hg, List.length_cons] at hs
      split at h
      · simp only [Prod.mk.injEq, true_and] at h
        rw [← h]
        omega
      · split at h <;> simp at h

/-- Contents with their closing bracket. A loose complaint about the contents
    is placed behind what the closing took. -/
def enclosed {α : Type} (close : List Char → Option Cause × List Char) (contents : Outcome α) :
    Outcome α :=
  match contents with
  | .error (.placed cause spot) => .error (.placed cause spot)
  -- The closing is tried all the same, since it decides where the place is.
  | .error (.loose cause rest) => failBefore cause (close rest).2
  | .ok (a, rest) =>
      match close rest with
      | (none, t) => .ok (a, t)
      | (some cause, t) => failAfter cause t

/-- What is enclosed was read, and its closing bracket too. -/
theorem enclosed_eq_ok {α : Type} {close : List Char → Option Cause × List Char}
    {contents : Outcome α} {a : α} {t : List Char} :
    enclosed close contents = .ok (a, t) ↔
      ∃ rest, contents = .ok (a, rest) ∧ close rest = (none, t) := by
  unfold enclosed
  split
  · simp
  · simp [failBefore]
  · next b rest =>
      cases hc : close rest with
      | mk cause u =>
          cases cause with
          | none =>
              simp only [Except.ok.injEq, Prod.mk.injEq]
              constructor
              · rintro ⟨rfl, rfl⟩
                exact ⟨rest, ⟨rfl, rfl⟩, hc⟩
              · rintro ⟨r, ⟨rfl, rfl⟩, hr⟩
                rw [hc] at hr
                exact ⟨rfl, (Prod.mk.inj hr).2⟩
          | some cause =>
              simp only [failAfter, reduceCtorEq, Except.ok.injEq, Prod.mk.injEq, false_iff,
                not_exists, not_and]
              rintro r ⟨_, rfl⟩ hr
              rw [hc] at hr
              simp at hr

/-- What stands in brackets leaves less than there was behind the opening
    one, if its contents do not grow the text. -/
theorem enclosed_length {α : Type} {close : List Char → Option Cause × List Char}
    (hclose : ∀ {s rest}, close s = (none, rest) → rest.length < s.length)
    {contents : Outcome α} {a : α} {r t : List Char}
    (hcontents : ∀ {rest}, contents = .ok (a, rest) → rest.length ≤ r.length)
    (h : enclosed close contents = .ok (a, t)) : t.length < r.length := by
  obtain ⟨rest, h1, h2⟩ := enclosed_eq_ok.1 h
  exact Nat.lt_of_lt_of_le (hclose h2) (hcontents h1)

/-- Reading within brackets succeeds only if a bracket may still be entered. -/
theorem within_eq_ok {α : Type} {depth : Nat} {s : List Char} {read : Nat → Outcome α}
    {found : α × List Char} :
    within depth s read = .ok found ↔ ∃ d, depth = d + 1 ∧ read d = .ok found := by
  cases depth with
  | zero => simp [within, failAfter]
  | succ d => simp [within]

namespace Reader

variable {α β : Type}

/-- A list of any length. -/
def list (depth : Nat) (item : Nat → Reader α) : Reader (List α) :=
  ofStart
    (fun c r =>
      if c = '[' then
        within depth (c :: r) fun d => enclosed closeList (scanItems (item d) true r)
      else reject "a sequence" (c :: r))
    (by
      intro c r a rest h
      split at h
      · obtain ⟨d, _, h⟩ := within_eq_ok.1 h
        exact Nat.le_of_lt (enclosed_length closeList_length scanItems_length h)
      · exact absurd h (reject_ne_ok _ _ _))

/-- What a list of two is called in a complaint. -/
def pairName : String := "a tuple of size 2"

/-- The two items of a pair. -/
def scanPair (one : Reader α) (other : Reader β) (s : List Char) : Outcome (α × β) :=
  match scanItem one true s with
  | .error e => .error e
  | .ok (none, rest) => .error (.loose (.wrongLength 0 pairName) rest)
  | .ok (some a, s) =>
      match scanItem other false s with
      | .error e => .error e
      | .ok (none, rest) => .error (.loose (.wrongLength 1 pairName) rest)
      | .ok (some b, rest) => .ok ((a, b), rest)

/-- A pair takes at least one character. -/
theorem scanPair_length {one : Reader α} {other : Reader β} {s rest : List Char} {p : α × β}
    (h : scanPair one other s = .ok (p, rest)) : rest.length ≤ s.length := by
  unfold scanPair at h
  split at h
  · simp at h
  · simp at h
  · next h1 =>
      split at h
      · simp at h
      · simp at h
      · next h2 =>
          simp only [Except.ok.injEq, Prod.mk.injEq] at h
          have l1 := scanItem_length h1
          have l2 := scanItem_length h2
          rw [← h.2]
          omega

/-- A list of exactly two. -/
def pair (depth : Nat) (one : Nat → Reader α) (other : Nat → Reader β) : Reader (α × β) :=
  ofStart
    (fun c r =>
      if c = '[' then
        within depth (c :: r) fun d => enclosed closeList (scanPair (one d) (other d) r)
      else reject pairName (c :: r))
    (by
      intro c r a rest h
      split at h
      · obtain ⟨d, _, h⟩ := within_eq_ok.1 h
        exact Nat.le_of_lt (enclosed_length closeList_length scanPair_length h)
      · exact absurd h (reject_ne_ok _ _ _))

end Reader

end Json

end DashKit
