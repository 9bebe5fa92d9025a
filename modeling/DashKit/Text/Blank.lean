/-!
# Blank Characters

Which characters count as blank around a preference or a cookie, and how text
is trimmed of them.

The class is the Unicode property White_Space. It is wider than ASCII, and
both readers that trim use it: a preference typed with a no-break space after
it still names its axis member. Trimming works on lists of characters, where
it is a `dropWhile` from either end, and `trimmed` carries it over to strings.

## Main definitions

* `isBlank`: Membership in the property.
* `trimStart`, `trimEnd`, `trim`: Blanks dropped from one end or both.
* `trimmed`: `trim` on strings.
* `Trims`: What is left of a text between the blanks at its ends.

## Theorems

* `trim_blanks_append`: Blanks in front of a text are dropped, and those at its
  end.
* `isBlank_of_head_trim`, `isBlank_of_last_trimEnd`: No blank is left at a
  trimmed end.
* `trim_trim`: A trimmed text has nothing left to trim.
* `trims_iff`: Trimming leaves what is between the blanks, and only that.
-/

namespace DashKit

namespace Text

/-- The code points with the property White_Space, as closed ranges in
    ascending order. -/
def blankRanges : List (Nat × Nat) :=
  [(0x09, 0x0D), (0x20, 0x20), (0x85, 0x85), (0xA0, 0xA0), (0x1680, 0x1680),
   (0x2000, 0x200A), (0x2028, 0x2029), (0x202F, 0x202F), (0x205F, 0x205F),
   (0x3000, 0x3000)]

/-- A character lies in one of the ranges. -/
def isBlank (c : Char) : Bool :=
  blankRanges.any fun range => range.1 ≤ c.toNat && c.toNat ≤ range.2

/-- The text from its first character that is not blank. -/
def trimStart (s : List Char) : List Char :=
  s.dropWhile isBlank

/-- The text up to its last character that is not blank. -/
def trimEnd (s : List Char) : List Char :=
  (s.reverse.dropWhile isBlank).reverse

/-- The text without the blanks at its two ends. -/
def trim (s : List Char) : List Char :=
  trimEnd (trimStart s)

/-- The string without the blanks at its two ends. -/
def trimmed (s : String) : String :=
  String.ofList (trim s.toList)

/-- A text is what is left of a raw one between the blanks at its ends. -/
structure Trims (raw text : String) : Prop where
  around : ∃ front back : List Char, raw.toList = front ++ (text.toList ++ back) ∧
    (∀ c ∈ front, isBlank c = true) ∧ ∀ c ∈ back, isBlank c = true
  head : ∀ c ∈ text.toList.head?, isBlank c = false
  last : ∀ c ∈ text.toList.getLast?, isBlank c = false

theorem isBlank_of_isDigit {c : Char} (h : c.isDigit = true) : isBlank c = false := by
  simp only [Char.isDigit, ge_iff_le, UInt32.le_iff_toNat_le, Bool.and_eq_true,
    decide_eq_true_eq] at h
  have hlow : 48 ≤ c.toNat := h.1
  have hhigh : c.toNat ≤ 57 := h.2
  -- The ranges of blanks end below the digits or begin behind them.
  simp only [isBlank, blankRanges, List.any_cons, List.any_nil, Bool.or_eq_false_iff,
    Bool.and_eq_false_iff, decide_eq_false_iff_not, and_true]
  omega

/-- The head of what a `dropWhile` leaves fails the test. -/
theorem head_dropWhile (p : Char → Bool) {s : List Char} {c : Char} {r : List Char}
    (h : s.dropWhile p = c :: r) : p c = false := by
  induction s with
  | nil => simp only [List.dropWhile_nil, reduceCtorEq] at h
  | cons a s ih =>
      rw [List.dropWhile_cons] at h
      split at h
      · exact ih h
      · next hp =>
          obtain ⟨rfl, _⟩ := List.cons.inj h
          simpa only [Bool.not_eq_true] using hp

/-- Nothing is dropped twice from the front. -/
theorem trimStart_trimStart (s : List Char) :
    trimStart (trimStart s) = trimStart s := by
  unfold trimStart
  cases h : s.dropWhile isBlank with
  | nil => rfl
  | cons c r => simp only [List.dropWhile_cons, head_dropWhile isBlank h,
      Bool.false_eq_true, if_false]

/-- Nothing is dropped twice from the end. -/
theorem trimEnd_trimEnd (s : List Char) : trimEnd (trimEnd s) = trimEnd s := by
  have h := trimStart_trimStart s.reverse
  unfold trimStart at h
  simp only [trimEnd, List.reverse_reverse, h]

/-- Only what stands behind a character that is not blank is trimmed. -/
theorem trimEnd_append_cons {c : Char} (s r : List Char) (h : isBlank c = false) :
    trimEnd (s ++ c :: r) = s ++ c :: trimEnd r := by
  have hrev : (s ++ c :: r).reverse = r.reverse ++ c :: s.reverse := by
    simp only [List.reverse_append, List.reverse_cons, List.append_assoc, List.singleton_append]
  simp only [trimEnd, hrev, List.dropWhile_append, List.isEmpty_iff]
  split
  · next hr => simp [hr, h]
  · simp

theorem trimStart_of_head {s : List Char} (h : ∀ c ∈ s.head?, isBlank c = false) :
    trimStart s = s := by
  cases s with
  | nil => rfl
  | cons c r =>
      rw [trimStart, List.dropWhile_cons, h c rfl]
      rfl

/-- Blanks in front of a text that does not begin with one are dropped, and
    then what is blank at its end. -/
theorem trim_blanks_append {blanks s : List Char} (hb : ∀ c ∈ blanks, isBlank c = true)
    (hs : ∀ c ∈ s.head?, isBlank c = false) : trim (blanks ++ s) = trimEnd s := by
  have hstart : trimStart (blanks ++ s) = s := by
    rw [trimStart, List.dropWhile_append_of_pos hb]
    exact trimStart_of_head hs
  rw [trim, hstart]

theorem isBlank_of_last_trimEnd {s : List Char} {c : Char} (h : c ∈ (trimEnd s).getLast?) :
    isBlank c = false := by
  rw [trimEnd, List.getLast?_reverse] at h
  rcases List.head?_eq_some_iff.mp h with ⟨r, hr⟩
  exact head_dropWhile isBlank hr

theorem isBlank_of_head_trim {s : List Char} {c : Char} (h : c ∈ (trim s).head?) :
    isBlank c = false := by
  rw [trim] at h
  cases hs : trimStart s with
  | nil =>
      rw [hs] at h
      exact absurd h (by simp [trimEnd])
  | cons d r =>
      have hd : isBlank d = false := head_dropWhile isBlank hs
      have htrim : trimEnd (d :: r) = d :: trimEnd r := trimEnd_append_cons [] r hd
      rw [hs, htrim, List.head?_cons, Option.mem_some_iff] at h
      rw [← h]
      exact hd

/-- A text ends without a blank exactly if nothing is trimmed there. -/
theorem trimEnd_eq_self {s : List Char} :
    trimEnd s = s ↔ ∀ c ∈ s.getLast?, isBlank c = false := by
  constructor
  · intro h c hc
    rw [← h] at hc
    exact isBlank_of_last_trimEnd hc
  · intro h
    rw [List.getLast?_eq_head?_reverse] at h
    have hrev := trimStart_of_head h
    rw [trimStart] at hrev
    rw [trimEnd, hrev, List.reverse_reverse]

theorem mem_of_mem_trimEnd {s : List Char} {c : Char} (h : c ∈ trimEnd s) : c ∈ s := by
  rw [trimEnd, List.mem_reverse] at h
  exact List.mem_reverse.mp ((List.dropWhile_sublist isBlank).mem h)

theorem mem_of_mem_trim {s : List Char} {c : Char} (h : c ∈ trim s) : c ∈ s :=
  (List.dropWhile_sublist isBlank).mem (mem_of_mem_trimEnd h)

/-- Nothing is left to trim in a trimmed text. -/
theorem trim_trim (s : List Char) : trim (trim s) = trim s := by
  have h : trimStart (trim s) = trim s := trimStart_of_head fun _ hc => isBlank_of_head_trim hc
  rw [trim, h, trim, trimEnd_trimEnd]

/-- Trimming a string twice is trimming it once. -/
theorem trimmed_trimmed (s : String) : trimmed (trimmed s) = trimmed s := by
  simp only [trimmed, String.toList_ofList, trim_trim]

theorem isBlank_of_mem_takeWhile {s : List Char} {c : Char} (h : c ∈ s.takeWhile isBlank) :
    isBlank c = true :=
  List.all_eq_true.mp List.all_takeWhile c h

/-- Blanks behind a text do not show once its end is trimmed. -/
theorem trimEnd_append_blanks {blanks : List Char} (s : List Char)
    (h : ∀ c ∈ blanks, isBlank c = true) : trimEnd (s ++ blanks) = trimEnd s := by
  have hrev : ∀ c ∈ blanks.reverse, isBlank c = true :=
    fun c hc => h c (List.mem_reverse.mp hc)
  rw [trimEnd, trimEnd, List.reverse_append, List.dropWhile_append_of_pos hrev]

theorem exists_trimEnd_append (s : List Char) :
    ∃ blanks, s = trimEnd s ++ blanks ∧ ∀ c ∈ blanks, isBlank c = true := by
  refine ⟨(s.reverse.takeWhile isBlank).reverse, ?_,
    fun c hc => isBlank_of_mem_takeWhile (List.mem_reverse.mp hc)⟩
  rw [trimEnd, ← List.reverse_append, List.takeWhile_append_dropWhile, List.reverse_reverse]

/-- What trimming leaves is between blanks. -/
theorem trims_trimmed (raw : String) : Trims raw (trimmed raw) := by
  rcases exists_trimEnd_append (trimStart raw.toList) with ⟨back, hback, hblank⟩
  have hlist : (trimmed raw).toList = trim raw.toList := String.toList_ofList
  refine ⟨⟨raw.toList.takeWhile isBlank, back, ?_, fun c => isBlank_of_mem_takeWhile, hblank⟩,
    fun c hc => ?_, fun c hc => ?_⟩
  · rw [hlist, trim, ← hback, trimStart, List.takeWhile_append_dropWhile]
  · rw [hlist] at hc
    exact isBlank_of_head_trim hc
  · rw [hlist, trim] at hc
    exact isBlank_of_last_trimEnd hc

/-- Trimming leaves exactly what is between the blanks. -/
theorem trims_iff {raw text : String} : Trims raw text ↔ trimmed raw = text := by
  constructor
  · rintro ⟨⟨front, back, hraw, hfront, hback⟩, hhead, hlast⟩
    rw [← String.toList_inj, trimmed, String.toList_ofList, hraw]
    by_cases hnil : text.toList = []
    -- All of it is blank.
    · have hall : ∀ c ∈ front ++ back, isBlank c = true := by
        intro c hc
        exact (List.mem_append.mp hc).elim (hfront c) (hback c)
      have htrim := trim_blanks_append (s := []) hall (by simp)
      rw [List.append_nil] at htrim
      rw [hnil, List.nil_append, htrim]
      rfl
    -- It starts with no blank, and trimming the start stops there.
    · have hstart : ∀ c ∈ (text.toList ++ back).head?, isBlank c = false := by
        rw [List.head?_append, Option.or_of_isSome (List.isSome_head?.mpr hnil)]
        exact hhead
      rw [trim_blanks_append hfront hstart, trimEnd_append_blanks _ hback]
      exact trimEnd_eq_self.mpr hlast
  · rintro rfl
    exact trims_trimmed raw

end Text

end DashKit
