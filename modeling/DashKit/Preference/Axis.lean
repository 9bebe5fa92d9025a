import DashKit.Fault
import DashKit.Text.Blank

/-!
# Preference Axes

The three axes a person can set, and what they have in common.

An axis is a closed list of members, each with one word. The word is the only
text form there is: the same word is read from settings, written into JSON
and put on the document root. `Axis` holds that common part once, so reading
is one function for all three and cannot disagree with writing.

A theme may be left to the host, so what is drawn is a `Scheme`, which has
light and dark only.

## Main definitions

* `Axis`: Label, members, words and titles of an axis.
* `Axis.read`: The member that a text names, blanks at its ends ignored.
* `Theme`, `Density`, `Radius`: The axes.
* `Scheme`, `Theme.scheme`: The colors drawn once the host was asked.
* `Preferences`: One member of each axis.

## Theorems

* `Axis.read_eq_ok`: A text is read as a member exactly if it trims to the
  member's word.
-/

namespace DashKit

/-- An axis of preferences: a closed list of members with a word for each. -/
class Axis (α : Type) where
  /-- What the axis is called in a fault. -/
  label : String
  /-- Every member, in the order they are offered. -/
  members : List α
  /-- The text form of a member. -/
  word : α → String
  /-- The member's title in a diagnostic. -/
  title : α → String
  /-- No member was left out. -/
  complete : ∀ a, a ∈ members
  /-- No two members share a word. -/
  word_injective : ∀ {a b}, word a = word b → a = b

namespace Axis

variable {α : Type} [Axis α]

/-- The member whose word is exactly this text. -/
def named? (text : String) : Option α :=
  (members : List α).find? fun a => word a == text

/-- The member that a text names once the blanks at its ends are dropped. -/
def read (raw : String) : Except Fault α :=
  match (named? (Text.trimmed raw) : Option α) with
  | some a => .ok a
  | none => .error (.invalidPreference (label α) (Text.trimmed raw))

/-- A text names a member exactly if it is that member's word. -/
theorem named?_eq_some {text : String} {a : α} : named? text = some a ↔ text = word a := by
  constructor
  · intro h
    have hw := List.find?_some h
    exact (beq_iff_eq.1 hw).symm
  · rintro rfl
    cases h : (members : List α).find? fun b => word b == word a with
    -- The member is in the list, so the search cannot miss it.
    | none =>
        have := List.find?_eq_none.1 h a (complete a)
        simp only [beq_self_eq_true, not_true_eq_false] at this
    -- Whatever it found has the same word, so it is the same member.
    | some b =>
        have hb := List.find?_some h
        rw [named?, h, word_injective (beq_iff_eq.1 hb)]

/-- A text names no member exactly if it is no member's word. -/
theorem named?_eq_none {text : String} :
    (named? text : Option α) = none ↔ text ∉ (members : List α).map word := by
  rw [named?, List.find?_eq_none, List.mem_map]
  constructor
  · rintro h ⟨a, ha, rfl⟩
    exact h a ha (beq_iff_eq.2 rfl)
  · intro h a ha hbeq
    exact h ⟨a, ha, beq_iff_eq.1 hbeq⟩

/-- A text is read as a member exactly if it trims to the member's word. -/
theorem read_eq_ok {raw : String} {a : α} :
    read raw = .ok a ↔ Text.trimmed raw = word a := by
  rw [← named?_eq_some]
  unfold read
  cases (named? (Text.trimmed raw) : Option α) <;> simp

end Axis

/-- The color preference. `system` leaves the choice to the host and is kept
    as it is, so a later switch of the host still shows. -/
inductive Theme
  | light
  | dark
  | system
  deriving DecidableEq, Repr

/-- The colors that are drawn. -/
inductive Scheme
  | light
  | dark
  deriving DecidableEq, Repr

/-- How tightly components are spaced. -/
inductive Density
  | compact
  | comfortable
  | spacious
  deriving DecidableEq, Repr

/-- How round corners are. -/
inductive Radius
  | none
  | sm
  | md
  | lg
  | xl
  deriving DecidableEq, Repr

instance : Inhabited Theme := ⟨.system⟩

instance : Inhabited Scheme := ⟨.light⟩

instance : Inhabited Density := ⟨.comfortable⟩

instance : Inhabited Radius := ⟨.md⟩

namespace Theme

/-- The text form of a theme. -/
def word : Theme → String
  | light => "light"
  | dark => "dark"
  | system => "system"

/-- The title of a theme in a diagnostic. -/
def title : Theme → String
  | light => "Light"
  | dark => "Dark"
  | system => "System"

instance : Axis Theme where
  label := "theme"
  members := [light, dark, system]
  word := word
  title := title
  complete := by intro a; cases a <;> decide
  word_injective := by intro a b; cases a <;> cases b <;> decide

/-- The colors drawn for a theme on a host that does or does not prefer dark
    ones. Only `system` listens to the host. -/
def scheme (prefersDark : Bool) : Theme → Scheme
  | light => .light
  | dark => .dark
  | system => if prefersDark then .dark else .light

end Theme

namespace Scheme

/-- The text form of a scheme. -/
def word : Scheme → String
  | light => "light"
  | dark => "dark"

/-- The scheme is the dark one. -/
def isDark : Scheme → Bool
  | light => false
  | dark => true

instance {P : Scheme → Prop} [DecidablePred P] : Decidable (∀ scheme, P scheme) :=
  decidable_of_iff (P light ∧ P dark)
    ⟨fun h scheme => match scheme with
      | light => h.1
      | dark => h.2,
    fun h => ⟨h light, h dark⟩⟩

end Scheme

namespace Density

/-- The text form of a density. -/
def word : Density → String
  | compact => "compact"
  | comfortable => "comfortable"
  | spacious => "spacious"

/-- The title of a density in a diagnostic. -/
def title : Density → String
  | compact => "Compact"
  | comfortable => "Comfortable"
  | spacious => "Spacious"

instance : Axis Density where
  label := "density"
  members := [compact, comfortable, spacious]
  word := word
  title := title
  complete := by intro a; cases a <;> decide
  word_injective := by intro a b; cases a <;> cases b <;> decide

/-- The factor that the stylesheet multiplies its spacing by. -/
def scale : Density → String
  | compact => "0.75"
  | comfortable => "1"
  | spacious => "1.25"

end Density

namespace Radius

/-- The text form of a radius. -/
def word : Radius → String
  | none => "none"
  | sm => "sm"
  | md => "md"
  | lg => "lg"
  | xl => "xl"

/-- The title of a radius in a diagnostic. -/
def title : Radius → String
  | none => "None"
  | sm => "Sm"
  | md => "Md"
  | lg => "Lg"
  | xl => "Xl"

instance : Axis Radius where
  label := "radius"
  members := [none, sm, md, lg, xl]
  word := word
  title := title
  complete := by intro a; cases a <;> decide
  word_injective := by intro a b; cases a <;> cases b <;> decide

/-- The length that the stylesheet rounds its corners by. -/
def length : Radius → String
  | none => "0"
  | sm => "0.25rem"
  | md => "0.5rem"
  | lg => "0.75rem"
  | xl => "1rem"

end Radius

/-- One member of each axis. -/
structure Preferences where
  theme : Theme := default
  density : Density := default
  radius : Radius := default
  deriving DecidableEq, Repr

instance : Inhabited Preferences := ⟨{}⟩

namespace Preferences

/-- The diagnostic form of the three members. -/
def describe (p : Preferences) : String :=
  "ThemePreferences \x7b theme: " ++ p.theme.title ++ ", density: " ++ p.density.title
    ++ ", radius: " ++ p.radius.title ++ " \x7d"

end Preferences

end DashKit
