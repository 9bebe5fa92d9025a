import DashKit.Proofs.Options.Gathering

/-!
# One Word for a Member

The text form of a preference, wherever a preference is read or written.

A person may type a preference into a setting, and a program may send it as
JSON. The two are not equally strict. A setting may have blanks around the
word, of any kind that Unicode knows, and they are dropped; a string in JSON
has to be the word as it stands, though any of its characters may be spelled as
an escape. Apart from the blanks the two readers accept the same texts, and
neither knows another case or another name for a member: `OneForm` says all of
this for one axis, with the words of the axis given from outside.

What blanks are dropped is said by `Text.Trims`, which does not mention how
trimming goes about it. A text has one such core, so a fault that reports the
core of what was typed is reported again, unchanged, for the core itself.

## Main definitions

* `Json.stringText`: A string as a text of its own.
* `Axis.OneForm`: The words of an axis are its only text form.

## Theorems

* `read_of_not_trims`: What is typed and is no word is reported, twice alike.
* `decode_stringText`: A string is decoded as the member whose word it spells.
* `oneForm`: What every axis with the codec of words has.
* `preferences_oneForm`: The three axes.
-/

namespace DashKit

open Json

/-- A string as a text of its own, with blanks around it. -/
def Json.stringText (before : Gap) (pieces : List Piece) (after : Gap) : String :=
  String.ofList (before.chars ++ ((Form.quoted pieces).text ++ after.chars))

namespace Axis

/-- An axis has the given words, and each is the only text form of its member:
    what is typed names a member if it is the word between blanks, a string in
    JSON does if it spells the word and nothing else, and the word is what is
    written. Whatever else is typed is reported without its blanks, and would be
    reported like that again. -/
structure OneForm (α : Type) [Axis α] [Codec α] (label : String) (words : List String) :
    Prop where
  listed : (members : List α).map word = words
  reads : ∀ raw (a : α), read raw = .ok a ↔ Text.Trims raw (word a)
  refuses : ∀ raw, (∀ a : α, ¬Text.Trims raw (word a)) → ∃ text, Text.Trims raw text ∧
    (read raw : Except Fault α) = .error (.invalidPreference label text) ∧
    (read text : Except Fault α) = .error (.invalidPreference label text)
  decodes : ∀ before pieces after (a : α),
    decode α (stringText before pieces after) = .ok a ↔ spelling? pieces = some (word a).toList
  encodes : ∀ a : α, encode a = "\"" ++ word a ++ "\""
  agrees : ∀ raw text before pieces after (a : α), Text.Trims raw text →
    spelling? pieces = some text.toList →
    (read raw = .ok a ↔ decode α (stringText before pieces after) = .ok a)

variable {α : Type} [Axis α]

theorem read_eq_ok_iff {raw : String} {a : α} : read raw = .ok a ↔ Text.Trims raw (word a) :=
  read_eq_ok.trans Text.trims_iff.symm

/-- What is typed and is no word between blanks is reported without its blanks,
    and so is what was reported. -/
theorem read_of_not_trims {raw : String} (h : ∀ a : α, ¬Text.Trims raw (word a)) :
    (read raw : Except Fault α) = .error (.invalidPreference (label α) (Text.trimmed raw)) ∧
      (read (Text.trimmed raw) : Except Fault α) =
        .error (.invalidPreference (label α) (Text.trimmed raw)) := by
  have hnone : (named? (Text.trimmed raw) : Option α) = none := by
    -- A word that is found for the core would be one that the whole text trims to.
    rw [Option.eq_none_iff_forall_ne_some]
    intro a ha
    exact h a (Text.trims_iff.mpr (named?_eq_some.mp ha))
  -- The core has no blanks to lose, so reading it finds the same.
  unfold read
  rw [Text.trimmed_trimmed, hnone]
  exact ⟨rfl, rfl⟩

/-- A string is decoded as the member whose word it spells. -/
theorem decode_stringText (before : Gap) (pieces : List Piece) (after : Gap) (a : α) :
    @decode α codec (stringText before pieces after) = .ok a ↔
      spelling? pieces = some (word a).toList := by
  -- The reader is asked about one form, whatever blanks are around it.
  have hvalue : (codec.reader maxDepth : Reader α).value? (Form.quoted pieces).text =
      member? ((members : List α).map fun a => (word a, a)) pieces :=
    value?_of_finds_append fun t _ => finds_member_quoted maxDepth _ pieces t
  rw [stringText, @decode_form α codec (settled_axis α maxDepth), hvalue]
  -- Members are looked up by what the string spells, however it is spelled.
  cases hspelling : spelling? pieces with
  | none => simp only [member?, hspelling, Option.bind_none, reduceCtorEq]
  | some chars =>
      have htext : spelling? pieces = some (String.ofList chars).toList := by
        rw [hspelling, String.toList_ofList]
      rw [member?_axis htext, named?_eq_some, Option.some_inj, ← String.toList_inj,
        String.toList_ofList]

/-- The words of an axis are its only text form if none of them needs an escape
    in JSON. -/
theorem oneForm (h : ∀ a : α, @encode α codec a = "\"" ++ word a ++ "\"") :
    @OneForm α _ codec (label α) ((members : List α).map word) := by
  -- The instance in the statement is the codec of words.
  let _ : Codec α := codec
  refine ⟨rfl, fun _ _ => read_eq_ok_iff, ?_, decode_stringText, h, ?_⟩
  · intro raw hno
    exact ⟨Text.trimmed raw, Text.trims_trimmed raw, read_of_not_trims hno⟩
  · intro raw text before pieces after a htrims hspelling
    rw [decode_stringText, hspelling, read_eq_ok, Text.trims_iff.mp htrims, Option.some_inj,
      String.toList_inj]

end Axis

/-- Theme, density and radius have one text form each, and it is the same one
    in settings and in JSON. -/
theorem preferences_oneForm :
    Axis.OneForm Theme "theme" ["light", "dark", "system"] ∧
      Axis.OneForm Density "density" ["compact", "comfortable", "spacious"] ∧
      Axis.OneForm Radius "radius" ["none", "sm", "md", "lg", "xl"] :=
  ⟨Axis.oneForm fun a => by cases a <;> rfl, Axis.oneForm fun a => by cases a <;> rfl,
    Axis.oneForm fun a => by cases a <;> rfl⟩

end DashKit
