import DashKit.Options

/-!
# Designs

The preferences in force on a page, and what the page shows of them.

A theme that was left to the host is kept as it is and resolved anew whenever
it is drawn, by asking the host at that moment. A theme that was chosen is
drawn without asking. The host is a `SchemeSource`, a question put to a world
of any type, so that the number of questions can be counted.

The document root is marked with the scheme, the density and the radius, and
carries the last two as custom properties as well.

## Main definitions

* `SchemeSource`: The host's answer to whether it prefers dark colors.
* `Preferences.scheme`: The scheme drawn now.
* `Preferences.attributes`, `Preferences.properties`: The marks on the root.
* `Choice`, `Preferences.choose`: A person sets one axis.

## Theorems

* `choose_unchanged`: A choice that changes nothing leaves the preferences.
* `scheme_fst`, `attributes_fst`: What is drawn, by the answer of the host.
* `dark_mem_attributes`: The root is marked dark exactly with the scheme.
-/

namespace DashKit

/-- Whether the host prefers dark colors, asked of a world of type `σ`. -/
structure SchemeSource (σ : Type) where
  prefersDark : σ → Bool × σ

namespace SchemeSource

/-- A flag that can be set from outside. -/
def signal : SchemeSource Bool where
  prefersDark dark := (dark, dark)

/-- A host without a preference. -/
def indifferent {σ : Type} : SchemeSource σ where
  prefersDark world := (false, world)

/-- The same source with the number of times it was asked. -/
def counted {σ : Type} (source : SchemeSource σ) : SchemeSource (σ × Nat) where
  prefersDark world :=
    let (dark, inner) := source.prefersDark world.1
    (dark, inner, world.2 + 1)

end SchemeSource

/-- A new member for one axis. -/
inductive Choice
  | theme (value : Theme)
  | density (value : Density)
  | radius (value : Radius)
  deriving DecidableEq, Repr

namespace Preferences

/-- Sets one axis. The answer is whether that changed it. -/
def choose (p : Preferences) : Choice → Bool × Preferences
  | .theme value => (p.theme != value, { p with theme := value })
  | .density value => (p.density != value, { p with density := value })
  | .radius value => (p.radius != value, { p with radius := value })

/-- The diagnostic form of a page's preferences. Their host is left out. -/
def describeInForce (p : Preferences) : String :=
  "DesignSystemStore \x7b prefs: " ++ p.describe ++ ", .. \x7d"

variable {σ : Type} (source : SchemeSource σ)

/-- The scheme drawn now. The host is asked only when the theme was left to
    it. -/
def scheme (p : Preferences) (world : σ) : Scheme × σ :=
  match p.theme with
  | .light => (.light, world)
  | .dark => (.dark, world)
  | .system =>
      let (dark, world) := source.prefersDark world
      (Theme.system.scheme dark, world)

/-- The names of the attributes on the document root. -/
def themeAttribute : String := "data-theme"

@[inherit_doc themeAttribute]
def densityAttribute : String := "data-density"

@[inherit_doc themeAttribute]
def radiusAttribute : String := "data-radius"

/-- The names of the custom properties on the document root. -/
def densityProperty : String := "--density-scale"

@[inherit_doc densityProperty]
def radiusProperty : String := "--radius"

/-- The attributes on the document root, drawn now. -/
def attributes (p : Preferences) (world : σ) : List (String × String) × σ :=
  let (scheme, world) := p.scheme source world
  ([(themeAttribute, scheme.word), (densityAttribute, p.density.word),
    (radiusAttribute, p.radius.word)], world)

/-- The custom properties on the document root. -/
def properties (p : Preferences) : List (String × String) :=
  [(densityProperty, p.density.scale), (radiusProperty, p.radius.length)]

/-- A choice that changes nothing leaves the preferences as they are. -/
theorem choose_unchanged {p : Preferences} {choice : Choice} (h : (p.choose choice).1 = false) :
    (p.choose choice).2 = p := by
  cases choice <;> simp only [choose, bne_eq_false_iff_eq] at h ⊢ <;> rw [← h]

/-- The scheme that is drawn is the theme's under the answer of the host,
    whether or not the host is asked. -/
theorem scheme_fst (p : Preferences) (world : σ) :
    (p.scheme source world).1 = p.theme.scheme (source.prefersDark world).1 := by
  unfold scheme
  cases p.theme <;> rfl

theorem attributes_fst (p : Preferences) (world : σ) :
    (p.attributes source world).1 =
      [(themeAttribute, (p.theme.scheme (source.prefersDark world).1).word),
        (densityAttribute, p.density.word), (radiusAttribute, p.radius.word)] := by
  rw [← scheme_fst]
  rfl

/-- The root is marked dark exactly if the dark scheme is drawn. -/
theorem dark_mem_attributes (p : Preferences) (world : σ) :
    (themeAttribute, Scheme.dark.word) ∈ (p.attributes source world).1 ↔
      (p.scheme source world).1 = .dark := by
  rw [attributes_fst, ← scheme_fst]
  cases (p.scheme source world).1 <;>
    simp [themeAttribute, densityAttribute, radiusAttribute, Scheme.word]

end Preferences

end DashKit
