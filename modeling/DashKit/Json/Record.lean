import DashKit.Json.Pass

/-!
# Records With Known Fields

Reading a record whose fields are known by name.

The fields of a `Shape` may come in any order and among any other entries,
which are passed over. Each changes a draft, and a draft that is complete
gives the value. What is missing is found out at the end, and which missing
field is complained about is up to `finish`: by asking for one field after
the other it names the first.

A record may also be written as a list of its fields in their own order, with
fields left out at the end. The complaint then counts instead of naming.

## Main definitions

* `Field`: A name and the reader of a change to the draft.
* `Shape`: The fields of a record and what becomes of a draft.
* `Reader.shape`: The reader of such a record.

## Theorems

* `scanNamed_length`, `scanInOrder_length`: Both ways of writing a record only
  take from the text.
-/

namespace DashKit

namespace Json

/-- A field of a record. Reading it changes a draft of type `σ`. -/
structure Field (σ : Type) where
  name : String
  reader : Reader (σ → σ)

/-- What is known about a record: its name in complaints, its fields for a
    number of brackets that may still be entered, the draft nothing was read
    into, and the value of a draft or the name of a field it lacks. -/
structure Shape (σ α : Type) where
  name : String
  fields : Nat → List (Field σ)
  blank : σ
  finish : σ → Except String α

/-- How a shape is called when there are too few items for it. -/
def Shape.title {σ α : Type} (shape : Shape σ α) : String :=
  let count := (shape.fields 0).length
  "struct " ++ shape.name ++ " with " ++ toString count
    ++ if count = 1 then " element" else " elements"

/-- What was read of a record so far: the names of the fields, and the draft. -/
structure Progress (σ : Type) where
  seen : List String
  draft : σ

/-- The reader for the value under a key. A key that names no field is passed
    over, one that names a field must not have named it before. -/
def pickField {σ : Type} (fields : List (Field σ)) (progress : Progress σ) (key : String) :
    Except Cause (Reader (Progress σ → Progress σ)) :=
  match fields.find? fun field => field.name == key with
  | none => .ok (Reader.anything.map fun _ p => p)
  | some field =>
      if key ∈ progress.seen then .error (.repeatedField key)
      else .ok (field.reader.map fun change p => ⟨key :: p.seen, change p.draft⟩)

/-- The entries of a record as a finished value. -/
def scanNamed {σ α : Type} (shape : Shape σ α) (depth : Nat) (s : List Char) : Outcome α :=
  match scanEntries (pickField (shape.fields depth)) true ⟨[], shape.blank⟩ s with
  | .error e => .error e
  | .ok (progress, rest) =>
      match shape.finish progress.draft with
      | .error name => .error (.loose (.missingField name) rest)
      | .ok a => .ok (a, rest)

/-- The items of a list as fields in their order, as far as there are items. -/
def scanInOrder {σ : Type} (fields : List (Field σ)) (first : Bool) (draft : σ)
    (s : List Char) : Outcome σ :=
  match fields with
  | [] => .ok (draft, s)
  | field :: fields =>
      match scanItem field.reader first s with
      | .error e => .error e
      | .ok (none, rest) => .ok (draft, rest)
      | .ok (some change, rest) => scanInOrder fields false (change draft) rest

/-- The items of a list as a finished value. -/
def scanListed {σ α : Type} (shape : Shape σ α) (depth : Nat) (s : List Char) : Outcome α :=
  match scanInOrder (shape.fields depth) true shape.blank s with
  | .error e => .error e
  | .ok (draft, rest) =>
      match shape.finish draft with
      | .error name =>
          let place := (shape.fields depth).findIdx fun field => field.name == name
          .error (.loose (.wrongLength place shape.title) rest)
      | .ok a => .ok (a, rest)

/-- Entries only take from the text. -/
theorem scanNamed_length {σ α : Type} {shape : Shape σ α} {depth : Nat}
    {s rest : List Char} {a : α} (h : scanNamed shape depth s = .ok (a, rest)) :
    rest.length ≤ s.length := by
  unfold scanNamed at h
  split at h
  · simp at h
  · next hs =>
      split at h
      · simp at h
      · simp only [Except.ok.injEq, Prod.mk.injEq] at h
        rw [← h.2]
        exact scanEntries_length hs

/-- Fields in order only take from the text. -/
theorem scanInOrder_length {σ : Type} {fields : List (Field σ)} {first : Bool} {draft d : σ}
    {s rest : List Char} (h : scanInOrder fields first draft s = .ok (d, rest)) :
    rest.length ≤ s.length := by
  induction fields generalizing first draft s with
  | nil =>
      simp only [scanInOrder, Except.ok.injEq, Prod.mk.injEq] at h
      simp [h.2]
  | cons field fields ih =>
      simp only [scanInOrder] at h
      split at h
      · simp at h
      · next hi =>
          simp only [Except.ok.injEq, Prod.mk.injEq] at h
          rw [← h.2]
          exact scanItem_none_length hi
      · next hi =>
          have l1 := scanItem_length hi
          have l2 := ih h
          omega

/-- Items only take from the text. -/
theorem scanListed_length {σ α : Type} {shape : Shape σ α} {depth : Nat}
    {s rest : List Char} {a : α} (h : scanListed shape depth s = .ok (a, rest)) :
    rest.length ≤ s.length := by
  unfold scanListed at h
  split at h
  · simp at h
  · next hs =>
      split at h
      · simp at h
      · simp only [Except.ok.injEq, Prod.mk.injEq] at h
        rw [← h.2]
        exact scanInOrder_length hs

/-- A record of a shape, or the list of its fields. -/
def Reader.shape {σ α : Type} (depth : Nat) (shape : Shape σ α) : Reader α :=
  ofStart
    (fun c r =>
      if c = '\x7b' then
        within depth (c :: r) fun d => enclosed closeRecord (scanNamed shape d r)
      else if c = '[' then
        within depth (c :: r) fun d => enclosed closeList (scanListed shape d r)
      else reject ("struct " ++ shape.name) (c :: r))
    (by
      intro c r a rest h
      split at h
      · obtain ⟨d, _, h⟩ := within_eq_ok.1 h
        exact Nat.le_of_lt (enclosed_length closeRecord_length scanNamed_length h)
      split at h
      · obtain ⟨d, _, h⟩ := within_eq_ok.1 h
        exact Nat.le_of_lt (enclosed_length closeList_length scanListed_length h)
      · exact absurd h (reject_ne_ok _ _ _))

end Json

end DashKit
