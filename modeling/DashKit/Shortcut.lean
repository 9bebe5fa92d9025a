import DashKit.Text.Quoted

/-!
# Keyboard Shortcuts

The chord that toggles a sidebar.

A shortcut is one letter together with Control or Command, and neither Shift
nor Alt. Its letter is compared without regard to ASCII case, because a
keyboard with caps lock reports the capital, and the label shown to a person
spells the capital as well: both go through the one fold `foldCase`, so two
shortcuts have one label exactly if they fire on the same chords.

## Main definitions

* `Chord`: A key press with its modifiers.
* `Shortcut`: The letter of a shortcut.
* `Shortcut.fires`: A chord sets the shortcut off.
* `Shortcut.caption`: What a person is told to press.
-/

namespace DashKit

/-- A key press: the key's text and the modifiers held with it. -/
structure Chord where
  key : String := ""
  control : Bool := false
  command : Bool := false
  shift : Bool := false
  alt : Bool := false
  deriving DecidableEq, Repr

/-- The letter of a shortcut that is pressed with Control or Command. -/
structure Shortcut where
  key : Char := 'b'
  deriving DecidableEq, Repr

instance : Inhabited Shortcut := ⟨{}⟩

/-- An ASCII letter as its capital, any other character as it is. -/
def foldCase (c : Char) : Char :=
  c.toUpper

namespace Chord

/-- The one character of the key, if it has exactly one. -/
def letter? (chord : Chord) : Option Char :=
  match chord.key.toList with
  | [c] => some c
  | _ => none

/-- Control or Command is held, and neither Shift nor Alt. -/
def isCommand (chord : Chord) : Bool :=
  (chord.control || chord.command) && !chord.shift && !chord.alt

/-- The diagnostic form of a chord. -/
def describe (chord : Chord) : String :=
  "KeyChord \x7b key: " ++ Text.quoted chord.key ++ ", ctrl: " ++ toString chord.control
    ++ ", meta: " ++ toString chord.command ++ ", shift: " ++ toString chord.shift
    ++ ", alt: " ++ toString chord.alt ++ " \x7d"

end Chord

namespace Shortcut

/-- The chord sets the shortcut off. -/
def fires (shortcut : Shortcut) (chord : Chord) : Bool :=
  chord.isCommand && chord.letter?.any fun c => foldCase c == foldCase shortcut.key

/-- What a person is told to press. -/
def caption (shortcut : Shortcut) : String :=
  "Ctrl/Cmd + " ++ String.singleton (foldCase shortcut.key)

/-- The diagnostic form of a shortcut. -/
def describe (shortcut : Shortcut) : String :=
  "Shortcut \x7b key: " ++ Text.quotedChar shortcut.key ++ " \x7d"

end Shortcut

end DashKit
