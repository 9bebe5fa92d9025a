import DashKit.Shortcut
import Mathlib

/-!
# What the Caption of a Shortcut Promises

A person reads the caption of a shortcut and presses what it says. The caption
spells a capital letter, whatever letter the shortcut was made from, and a
chord is compared without regard to case. Two shortcuts therefore must not
share a caption unless they listen to the same chords, and must not differ in
their captions if they do: otherwise one caption would be wrong for one of
them.

A comparison that ignores case is usually made on small letters, and the
caption is made of capitals. For the letters of ASCII it does not matter which
of the two is taken (`foldCase_eq_iff`), and all other characters are compared
as they are, also those that have a capital in Unicode. So the question comes
down to one comparison of two characters, `fires_iff`, and to a chord that
tells two letters apart, which is the letter itself with Control.

## Main definitions

* `Recased`: A character is another one in the same or the other case.

## Theorems

* `fires_iff`: Which chords set a shortcut off.
* `caption_eq_iff`: Captions are equal if the letters are, but for their case.
* `caption_truthful`: Captions tell shortcuts apart as chords do, and what a
  chord may differ in without a difference.
-/

namespace DashKit

/-- A character is another one with its case in ASCII changed, or left. -/
def Recased (c d : Char) : Prop :=
  d = c ∨ d = c.toUpper ∨ d = c.toLower

/-- Two characters have one capital if they have one small letter. -/
theorem foldCase_eq_iff {c d : Char} : foldCase c = foldCase d ↔ c.toLower = d.toLower := by
  unfold foldCase
  -- A small letter can be found from the capital, and the other way around.
  constructor
  · intro h
    rw [← Char.toLower_toUpper_eq_toLower c, h, Char.toLower_toUpper_eq_toLower]
  · intro h
    rw [← Char.toUpper_toLower_eq_toUpper c, h, Char.toUpper_toLower_eq_toUpper]

theorem Recased.toLower_eq {c d : Char} (h : Recased c d) : d.toLower = c.toLower := by
  rcases h with rfl | rfl | rfl
  · rfl
  · exact Char.toLower_toUpper_eq_toLower c
  · exact Char.toLower_toLower_eq_toLower c

theorem Chord.letter?_eq_some {chord : Chord} {c : Char} :
    chord.letter? = some c ↔ chord.key.toList = [c] := by
  unfold letter?
  split
  · next d hkey => rw [hkey, Option.some_inj, List.singleton_inj]
  · next hkey =>
      simp only [reduceCtorEq, false_iff]
      exact hkey c

namespace Shortcut

variable {shortcut : Shortcut} {chord : Chord}

/-- A shortcut is set off by its letter in either case, with Control or Command
    and nothing else held. -/
theorem fires_iff :
    shortcut.fires chord = true ↔
      (chord.control = true ∨ chord.command = true) ∧ chord.shift = false ∧ chord.alt = false ∧
        ∃ c, chord.key.toList = [c] ∧ c.toLower = shortcut.key.toLower := by
  simp only [fires, Chord.isCommand, Bool.and_eq_true, Bool.or_eq_true, Bool.not_eq_true',
    Option.any_eq_true, beq_iff_eq, Chord.letter?_eq_some, foldCase_eq_iff, and_assoc]

/-- Two captions are equal if their letters are, but for the case. -/
theorem caption_eq_iff {one other : Shortcut} :
    one.caption = other.caption ↔ one.key.toLower = other.key.toLower := by
  -- The words in front of the letter are the same in every caption.
  rw [← foldCase_eq_iff, caption, caption, ← String.toList_inj, String.toList_append,
    String.toList_append, List.append_cancel_left_eq, String.toList_singleton,
    String.toList_singleton, List.singleton_inj]

/-- What a chord is compared with is the small letter alone. -/
theorem fires_congr {other : Shortcut} (h : other.key.toLower = shortcut.key.toLower)
    (chord : Chord) : other.fires chord = shortcut.fires chord := by
  rw [Bool.eq_iff_iff, fires_iff, fires_iff, h]

/-- A letter with Control sets its own shortcut off. -/
theorem fires_control (c : Char) :
    (Shortcut.mk c).fires { key := String.singleton c, control := true } = true :=
  fires_iff.mpr ⟨Or.inl rfl, rfl, rfl, c, String.toList_singleton c, rfl⟩

/-- The case of a key that is pressed makes no difference. -/
theorem fires_recased {key : String} (h : List.Forall₂ Recased chord.key.toList key.toList) :
    shortcut.fires { chord with key } = shortcut.fires chord := by
  have hletter : (∃ c, key.toList = [c] ∧ c.toLower = shortcut.key.toLower) ↔
      ∃ c, chord.key.toList = [c] ∧ c.toLower = shortcut.key.toLower := by
    -- The lists are equally long, so one of them is one character if the other is.
    constructor
    · rintro ⟨d, hkey, hd⟩
      rw [hkey, List.forall₂_cons_right_iff] at h
      rcases h with ⟨c, _, hrecased, hnil, hchord⟩
      rw [List.forall₂_nil_right_iff.mp hnil] at hchord
      exact ⟨c, hchord, hrecased.toLower_eq.symm.trans hd⟩
    · rintro ⟨c, hchord, hc⟩
      rw [hchord, List.forall₂_cons_left_iff] at h
      rcases h with ⟨d, _, hrecased, hnil, hkey⟩
      rw [List.forall₂_nil_left_iff.mp hnil] at hkey
      exact ⟨d, hkey, hrecased.toLower_eq.trans hc⟩
  rw [Bool.eq_iff_iff, fires_iff, fires_iff, hletter]

/-- Two shortcuts have one caption exactly if no chord tells them apart. A
    chord is heard for its letter in either case, and the case of the letter on
    either side makes no difference, nor whether it is Control or Command that
    is held. Nothing is heard with Shift or Alt, without Control and Command, or
    under a key that is not one character. -/
theorem caption_truthful :
    (∀ a b : Char, (Shortcut.mk a).caption = (Shortcut.mk b).caption ↔
      ∀ chord, (Shortcut.mk a).fires chord = (Shortcut.mk b).fires chord) ∧
    ∀ (shortcut : Shortcut) (chord : Chord),
      (shortcut.fires chord = true ↔
        (chord.control = true ∨ chord.command = true) ∧ chord.shift = false ∧
          chord.alt = false ∧
          ∃ c, chord.key.toList = [c] ∧ c.toLower = shortcut.key.toLower) ∧
      (∀ key, Recased shortcut.key key →
        (Shortcut.mk key).fires chord = shortcut.fires chord) ∧
      (∀ key : String, List.Forall₂ Recased chord.key.toList key.toList →
        shortcut.fires { chord with key } = shortcut.fires chord) ∧
      shortcut.fires { chord with control := chord.command, command := chord.control } =
        shortcut.fires chord ∧
      (chord.shift = true ∨ chord.alt = true ∨
          (chord.control = false ∧ chord.command = false) ∨ chord.key.length ≠ 1 →
        shortcut.fires chord = false) := by
  refine ⟨?_, fun shortcut chord => ⟨fires_iff, ?_, fun key => fires_recased, ?_, ?_⟩⟩
  · intro a b
    rw [caption_eq_iff]
    constructor
    · exact fun h chord => fires_congr h chord
    -- The letter of the one, pressed with Control, sets the other off.
    · intro h
      rcases fires_iff.mp ((h _).symm.trans (fires_control a)) with ⟨_, _, _, c, hkey, hc⟩
      rw [String.toList_singleton, List.singleton_inj] at hkey
      rw [hkey, hc]
  · intro key h
    exact fires_congr h.toLower_eq chord
  -- Control and Command stand on either side of one or.
  · rw [Bool.eq_iff_iff, fires_iff, fires_iff, or_comm]
  · intro hsilent
    rw [Bool.eq_false_iff]
    intro hfires
    rcases fires_iff.mp hfires with ⟨hheld, hshift, halt, c, hkey, _⟩
    -- A chord that is heard has none of the reasons for which it would not be.
    have hlength : chord.key.length = 1 := by
      rw [← String.length_toList, hkey, List.length_singleton]
    simp only [hshift, halt, hlength, Bool.false_eq_true, ne_eq, not_true_eq_false, or_false,
      false_or] at hsilent
    simp only [hsilent, Bool.false_eq_true, or_self] at hheld

/-- A capital that is typed with caps lock on, and a letter that has a capital
    outside of ASCII only. -/
theorem caption_truthful_capital :
    let held : Chord := { key := "b", control := true }
    Recased 'b' 'B' ∧ (Shortcut.mk 'B').fires held = true ∧
      List.Forall₂ Recased "b".toList "B".toList ∧
      (Shortcut.mk 'b').fires { held with key := "B" } = true ∧
      (Shortcut.mk 'ä').caption ≠ (Shortcut.mk 'Ä').caption ∧
      ({ held with alt := true } : Chord).alt = true ∧
      (Shortcut.mk 'b').fires { held with alt := true } = false := by
  intro held
  have hrecased : Recased 'b' 'B' := Or.inr (Or.inl rfl)
  have hkeys : List.Forall₂ Recased "b".toList "B".toList := .cons hrecased .nil
  have hb := caption_truthful.2 ⟨'b'⟩ held
  have hfires : (Shortcut.mk 'b').fires held = true := by decide
  have hcaption := (caption_truthful.1 'ä' 'Ä').not.mpr fun hall =>
    absurd (hall { key := "ä", control := true }) (by decide)
  exact ⟨hrecased, (hb.2.1 'B' hrecased).trans hfires, hkeys,
    (hb.2.2.1 "B" hkeys).trans hfires, hcaption, rfl,
    (caption_truthful.2 ⟨'b'⟩ { held with alt := true }).2.2.2.2 (Or.inr (Or.inl rfl))⟩

end Shortcut

end DashKit
