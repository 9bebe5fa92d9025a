/-!
# Separated Fields

Text cut at every occurrence of a separator, or at its first.

A text without the separator is one field, and two separators side by side
enclose an empty one, so joining the fields with the separator always gives
the text back.

## Main definitions

* `fields`: The pieces between separators.
* `splitFirst`: What stands before and after the first separator.

## Theorems

* `fields_append`: Cutting distributes over a separator.
* `fields_eq_singleton`: A text without the separator is one field.
* `not_mem_of_mem_fields`: A field is free of separators.
* `splitFirst_eq_some`: The two pieces rebuild the text.
-/

namespace DashKit

namespace Text

/-- The pieces of a text between the occurrences of `sep`, never none. -/
def fields (sep : Char) : List Char → List (List Char)
  | [] => [[]]
  | c :: r =>
      if c = sep then [] :: fields sep r
      else
        match fields sep r with
        | [] => [[c]]
        | piece :: pieces => (c :: piece) :: pieces

/-- What stands before and after the first `sep`, when there is one. -/
def splitFirst (sep : Char) : List Char → Option (List Char × List Char)
  | [] => none
  | c :: r =>
      if c = sep then some ([], r)
      else (splitFirst sep r).map fun parts => (c :: parts.1, parts.2)

/-- There is always at least one field. -/
theorem fields_ne_nil (sep : Char) (s : List Char) : fields sep s ≠ [] := by
  cases s with
  | nil => simp only [fields, ne_eq, reduceCtorEq, not_false_eq_true]
  | cons c r =>
      simp only [fields]
      split
      · simp only [ne_eq, reduceCtorEq, not_false_eq_true]
      · split <;> simp only [ne_eq, reduceCtorEq, not_false_eq_true]

/-- The fields of two texts around a separator are those of both. -/
theorem fields_append (sep : Char) (s t : List Char) :
    fields sep (s ++ sep :: t) = fields sep s ++ fields sep t := by
  induction s with
  | nil => simp only [List.nil_append, fields, if_pos, List.cons_append]
  | cons c r ih =>
      simp only [List.cons_append, fields, ih]
      split
      · rfl
      · cases h : fields sep r with
        | nil => exact absurd h (fields_ne_nil sep r)
        | cons piece pieces => rfl

theorem fields_eq_singleton {sep : Char} {s : List Char} (h : sep ∉ s) : fields sep s = [s] := by
  induction s with
  | nil => rfl
  | cons c r ih =>
      rw [List.mem_cons, not_or] at h
      rw [fields, if_neg (Ne.symm h.1), ih h.2]

/-- A text without the separator stands in the first field of what it is in front
    of. -/
theorem fields_append_of_not_mem {sep : Char} {s t first : List Char} {pieces : List (List Char)}
    (h : sep ∉ s) (ht : fields sep t = first :: pieces) :
    fields sep (s ++ t) = (s ++ first) :: pieces := by
  induction s with
  | nil => exact ht
  | cons c r ih =>
      rw [List.mem_cons, not_or] at h
      rw [List.cons_append, fields, if_neg (Ne.symm h.1), ih h.2]
      rfl

theorem bne_of_not_mem {sep : Char} {s : List Char} (h : sep ∉ s) :
    ∀ c ∈ s, (c != sep) = true := by
  intro c hc
  rw [bne_iff_ne]
  exact fun heq => h (heq ▸ hc)

/-- A field is free of separators. -/
theorem not_mem_of_mem_fields {sep : Char} {s piece : List Char} (h : piece ∈ fields sep s) :
    sep ∉ piece := by
  induction s generalizing piece with
  | nil =>
      rw [fields, List.mem_singleton] at h
      rw [h]
      exact List.not_mem_nil
  | cons c r ih =>
      rw [fields] at h
      split at h
      · rcases List.mem_cons.mp h with rfl | h
        · exact List.not_mem_nil
        · exact ih h
      · next hc =>
          cases hr : fields sep r with
          | nil => exact absurd hr (fields_ne_nil sep r)
          | cons first pieces =>
              rw [hr] at h ih
              rcases List.mem_cons.mp h with rfl | h
              · rw [List.mem_cons, not_or]
                exact ⟨Ne.symm hc, ih List.mem_cons_self⟩
              · exact ih (List.mem_cons_of_mem first h)

/-- The two pieces and the separator between them are the whole text, and the
    first piece is free of separators. -/
theorem splitFirst_eq_some {sep : Char} {s a b : List Char} :
    splitFirst sep s = some (a, b) ↔ s = a ++ sep :: b ∧ sep ∉ a := by
  induction s generalizing a with
  | nil => simp [splitFirst]
  | cons c r ih =>
      simp only [splitFirst]
      by_cases hc : c = sep
      · subst hc
        cases a with
        | nil => simp [eq_comm]
        | cons x a => simp +contextual [eq_comm]
      · cases a with
        | nil => simp [hc]
        | cons x a =>
            simp only [if_neg hc, Option.map_eq_some_iff, Prod.mk.injEq, List.cons.injEq,
              List.cons_append, List.mem_cons, not_or]
            constructor
            · rintro ⟨⟨p, q⟩, hp, ⟨rfl, rfl⟩, rfl⟩
              obtain ⟨h1, h2⟩ := ih.1 hp
              exact ⟨⟨rfl, h1⟩, fun h => hc h.symm, h2⟩
            · rintro ⟨⟨rfl, h1⟩, _, h2⟩
              exact ⟨(a, b), ih.2 ⟨h1, h2⟩, ⟨rfl, rfl⟩, rfl⟩

end Text

end DashKit
