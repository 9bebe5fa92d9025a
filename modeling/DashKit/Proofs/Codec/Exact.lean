import Mathlib.Data.List.TakeWhile
import DashKit.Codec.Basic
import DashKit.Proofs.Json.ReadBack

/-!
# Exact Codecs

Texts that stand for one value, and for no other if anything is cut off or
added.

`Faithful` is what a caller can rely on: the text of a value is decoded as
that value, gaps around it or not, and a text that is cut short or followed by
more than a gap is refused. It follows from four facts about the readers and
the written text, which `Exact` collects. They are kept apart from `Faithful`
because they, and not what is said about whole texts, carry over from the
parts of a type to the type itself.

A text that is cut short is refused because reading is sealed: were it read,
the same value would be read from the whole text with the rest left over, but
nothing is left over there.

## Main definitions

* `Skips`: A reader that ignores a gap in front.
* `Exact`: The readers and the written text of a type fit each other.
* `Faithful`: Texts stand for exactly one value.

## Theorems

* `Exact.faithful`: Exact codecs are faithful.
* `exact_words`, `exact_shape`: Words and records have exact codecs.
-/

namespace DashKit

namespace Json

/-- A scan that ignores a gap in front of a value. -/
def Skips {α : Type} (scan : List Char → Outcome α) : Prop :=
  ∀ ⦃gap⦄, (∀ c ∈ gap, isGap c = true) → ∀ s, scan (gap ++ s) = scan s

/-- The readers and the written text of a type fit each other, if so many
    brackets may be entered. -/
structure Exact (α : Type) [Codec α] (height : Nat) : Prop where
  reads : ∀ depth, height ≤ depth → ∀ a : α, Reads (Codec.reader depth) (Codec.value a).write a
  isSealed : ∀ depth, Sealed (Codec.reader depth : Reader α).run
  skips : ∀ depth, Skips (Codec.reader depth : Reader α).run
  opened : ∀ a : α, Opened (Codec.value a).write

/-- Texts stand for exactly one value: the one whose text it is up to gaps,
    and none if something is cut off or added. -/
structure Faithful (α : Type) [Codec α] : Prop where
  decode_encode : ∀ (a : α) (before after : String), (∀ c ∈ before.toList, isGap c = true) →
    (∀ c ∈ after.toList, isGap c = true) → decode α (before ++ encode a ++ after) = .ok a
  refuses_part : ∀ (a : α) (part : String), part.toList <+: (encode a).toList →
    part ≠ encode a → ∃ refusal, decode α part = .error refusal
  refuses_more : ∀ (a : α) (behind : String), (∃ c ∈ behind.toList, isGap c = false) →
    ∃ refusal, decode α (encode a ++ behind) = .error refusal

theorem readAll_eq_ok {α : Type} {reader : Reader α} {s : List Char} {a : α} :
    reader.readAll s = .ok a ↔ ∃ rest, reader.run s = .ok (a, rest) ∧ afterGap rest = [] := by
  unfold Reader.readAll
  cases hr : reader.run s with
  | error e => simp only [reduceCtorEq, false_and, exists_const]
  | ok found =>
      rcases found with ⟨b, rest⟩
      simp only [Except.ok.injEq, Prod.mk.injEq]
      -- Reading a whole text fails here exactly if something but a gap is left over.
      split
      · next hg =>
          constructor
          · intro hb
            exact ⟨rest, ⟨Except.ok.inj hb, rfl⟩, hg⟩
          · rintro ⟨_, ⟨rfl, _⟩, _⟩
            rfl
      · next hg =>
          constructor
          · intro hb
            simp only [failAfter, reduceCtorEq] at hb
          · rintro ⟨_, ⟨_, rfl⟩, hnil⟩
            exact absurd hnil hg

section Decoding

variable {α : Type} [Codec α]

theorem decode_eq_ok {text : String} {a : α} :
    decode α text = .ok a ↔
      ∃ rest, (Codec.reader maxDepth : Reader α).run text.toList = .ok (a, rest) ∧
        afterGap rest = [] := by
  rw [← readAll_eq_ok]
  unfold decode
  cases hr : (Codec.reader maxDepth : Reader α).readAll text.toList with
  | error e => simp only [reduceCtorEq]
  | ok b => simp only [Except.ok.injEq]

theorem decode_eq_error {text : String} (h : ∀ a, decode α text ≠ .ok a) :
    ∃ refusal, decode α text = .error refusal := by
  cases hd : decode α text with
  | error refusal => exact ⟨refusal, rfl⟩
  | ok a => exact absurd hd (h a)

theorem afterGap_eq_nil {s : List Char} : afterGap s = [] ↔ ∀ c ∈ s, isGap c = true :=
  List.dropWhile_eq_nil_iff

theorem toList_encode (a : α) : (encode a).toList = (Codec.value a).write :=
  String.toList_ofList

variable {height : Nat}

/-- What was written is found whatever stands behind it. -/
theorem Exact.run_append (h : Exact α height) {depth : Nat} (hd : height ≤ depth) (a : α)
    (t : List Char) :
    (Codec.reader depth : Reader α).run ((Codec.value a).write ++ t) = .ok (a, t) := by
  -- What is read from the text alone is read in front of anything, as it is sealed.
  have hrun := h.reads depth hd a [] endsNumber_nil
  rw [List.append_nil] at hrun
  exact h.isSealed depth t hrun

/-- Exact codecs are faithful, if a whole text may have so many brackets. -/
theorem Exact.faithful (h : Exact α height) (hd : height ≤ maxDepth) : Faithful α := by
  refine ⟨?_, ?_, ?_⟩
  -- What is left behind the value is the gap.
  · intro a before after hb ha
    refine decode_eq_ok.mpr ⟨after.toList, ?_, afterGap_eq_nil.mpr ha⟩
    rw [String.toList_append, String.toList_append, toList_encode, List.append_assoc,
      h.skips maxDepth hb]
    exact h.run_append hd a after.toList
  · intro a part hp hne
    refine decode_eq_error ?_
    intro b hdecode
    rcases decode_eq_ok.mp hdecode with ⟨rest, hrun, _⟩
    rcases hp with ⟨missing, hmissing⟩
    -- The part that was read would be read from the whole text as well.
    have hwhole := h.isSealed maxDepth missing hrun
    have hall := h.run_append hd a []
    rw [List.append_nil] at hall
    rw [hmissing, toList_encode, hall, Except.ok.injEq, Prod.mk.injEq] at hwhole
    have hnil := (List.append_eq_nil_iff.mp hwhole.2.symm).2
    rw [hnil, List.append_nil] at hmissing
    exact hne (String.toList_injective hmissing)
  · intro a behind hbehind
    refine decode_eq_error ?_
    intro b hdecode
    rcases decode_eq_ok.mp hdecode with ⟨rest, hrun, hrest⟩
    -- All that was added is left behind the value, and it had to be a gap.
    rw [String.toList_append, toList_encode, h.run_append hd a, Except.ok.injEq,
      Prod.mk.injEq] at hrun
    rw [← hrun.2] at hrest
    rcases hbehind with ⟨c, hc, hgap⟩
    rw [afterGap_eq_nil.mp hrest c hc] at hgap
    exact absurd hgap (by decide)

end Decoding

/-- What depends on a text from its first token on ignores a gap in front. -/
theorem skips_of_afterGap {α : Type} {scan : List Char → Outcome α}
    (h : ∀ s t, afterGap s = afterGap t → scan s = scan t) : Skips scan := by
  intro gap hgap s
  exact h _ _ (List.dropWhile_append_of_pos hgap)

theorem skips_value (depth : Nat) : Skips (Value.reader depth).run := by
  cases depth <;>
    exact skips_of_afterGap fun s t h => by
      simp only [Value.reader, Value.readerOver, Reader.ofStart, h]

theorem skips_sift {α β : Type} {reader : Reader α} (h : Skips reader.run)
    (accept : α → Except Cause β) : Skips (reader.sift accept).run := by
  intro gap hgap s
  simp only [Reader.sift, h hgap s]

theorem Exact.mono {α : Type} [Codec α] {height higher : Nat} (h : Exact α height)
    (hle : height ≤ higher) : Exact α higher :=
  { h with reads := fun depth hd => h.reads depth (Nat.le_trans hle hd) }

theorem exact_string : Exact String 0 where
  reads _ _ s := reads_text s
  isSealed _ := Reader.quoted_sealed _ _
  skips _ := skips_of_afterGap fun s t h => by
    simp only [Codec.reader, Reader.text, Reader.quoted, Reader.ofStart, h]
  opened s := opened_writeText s.toList

/-- Words stand for the members of a closed list if no two share one. -/
theorem exact_words {α : Type} {members : List α} {word : α → String}
    (hall : ∀ a, a ∈ members) (hword : ∀ a b, word a = word b → a = b) :
    @Exact α (.words members word) 0 :=
  @Exact.mk α (.words members word) 0
    (fun _ _ a => reads_member (hall a) fun b _ => hword b a)
    (fun _ => member_sealed _ _)
    (fun _ => skips_of_afterGap fun s t h => by
      simp only [Codec.reader, Reader.member, Reader.ofStart, h])
    (fun a => opened_writeText (word a).toList)

section Parts

variable {α β : Type} [Codec α] [Codec β] {height : Nat}

theorem Exact.list (h : Exact α height) : Exact (List α) (height + 1) where
  reads depth hd items := by
    -- A list enters a bracket of its own, so there has to be a level left for it.
    cases depth with
    | zero => exact absurd hd (Nat.not_succ_le_zero height)
    | succ depth =>
        have hd := Nat.le_of_succ_le_succ hd
        exact reads_list (fun a _ => h.opened a) (fun a _ => h.reads depth hd a)
  isSealed depth := list_sealed depth fun d => (h.isSealed d).isLocal
  skips _ := skips_of_afterGap fun s t h => by
    simp only [Codec.reader, Reader.list, Reader.ofStart, h]
  opened _ := ⟨'[', _, rfl, Or.inr (Or.inl rfl)⟩

theorem Exact.pair (ha : Exact α height) (hb : Exact β height) :
    Exact (α × β) (height + 1) where
  reads depth hd p := by
    cases depth with
    | zero => exact absurd hd (Nat.not_succ_le_zero height)
    | succ depth =>
        have hd := Nat.le_of_succ_le_succ hd
        exact reads_pair (ha.opened p.1) (hb.opened p.2) (ha.reads depth hd p.1)
          (hb.reads depth hd p.2)
  isSealed depth :=
    pair_sealed depth (fun d => (ha.isSealed d).isLocal) (fun d => (hb.isSealed d).isLocal)
  skips _ := skips_of_afterGap fun s t h => by
    simp only [Codec.reader, Reader.pair, Reader.ofStart, h]
  opened _ := ⟨'[', _, rfl, Or.inr (Or.inl rfl)⟩

theorem Exact.reads_option (h : Exact α height) {depth : Nat} (hd : height ≤ depth)
    (o : Option α) : Reads (Codec.reader depth) (Codec.value o).write o := by
  cases o with
  | none => exact reads_none
  | some a => exact reads_some (h.opened a) (h.reads depth hd a)

theorem Exact.option_local (h : Exact α height) (depth : Nat) :
    Local (Codec.reader depth : Reader (Option α)).run :=
  Reader.optional_local (h.isSealed depth).isLocal

end Parts

/-- A record with known fields is exact if its fields have names of their own
    and their values, in order, make up a draft that is complete. -/
theorem exact_shape {σ α : Type} {shape : Shape σ α} {height : Nat}
    {members : α → List (String × Value)} (draft : α → σ)
    (hnames : ∀ depth, ((shape.fields depth).map Field.name).Nodup)
    (hlocal : ∀ depth, ∀ field ∈ shape.fields depth, Local field.reader.run)
    (hmatched : ∀ depth, height ≤ depth → ∀ a,
      Matched (shape.fields depth) (members a) shape.blank (draft a))
    (hfinish : ∀ a, shape.finish (draft a) = .ok a) :
    @Exact α ⟨fun depth => .shape depth shape, fun a => .record (members a)⟩ (height + 1) := by
  refine @Exact.mk α ⟨fun depth => .shape depth shape, fun a => .record (members a)⟩ (height + 1)
    ?_ (fun _ => shape_sealed hlocal) (fun _ => skips_of_afterGap ?_)
    (fun a => ⟨'\x7b', _, rfl, Or.inr (Or.inr rfl)⟩)
  -- As for a list, the fields have one level less.
  · intro depth hd a
    cases depth with
    | zero => exact absurd hd (Nat.not_succ_le_zero height)
    | succ depth =>
        exact reads_shape (hnames depth) (hmatched depth (Nat.le_of_succ_le_succ hd) a) (hfinish a)
  · intro s t h
    simp only [Reader.shape, Reader.ofStart, h]

end Json

end DashKit
