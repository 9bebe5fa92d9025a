import DashKit.Page.Component

/-!
# Buttons and Badges

The two small widgets of the kit and the words their classes are made of.

A button has a variant and a size, a badge has a tone. Each word ends up in a
class of its own beside the class of the widget, so the stylesheet can treat
them one by one.

## Main definitions

* `Variant`, `Size`, `Button`: A button.
* `Tone`, `badge`: A badge.
-/

namespace DashKit

/-- How a button is meant. -/
inductive Variant
  | primary
  | secondary
  | outline
  | ghost
  | destructive
  deriving DecidableEq, Repr

/-- How large a button is. -/
inductive Size
  | sm
  | md
  | lg
  | icon
  deriving DecidableEq, Repr

/-- How a badge is meant. -/
inductive Tone
  | neutral
  | success
  | warning
  | danger
  deriving DecidableEq, Repr

instance : Inhabited Variant := ⟨.primary⟩

instance : Inhabited Size := ⟨.md⟩

instance : Inhabited Tone := ⟨.neutral⟩

namespace Variant

/-- Every variant. -/
def all : List Variant := [primary, secondary, outline, ghost, destructive]

/-- The text form of a variant. -/
def word : Variant → String
  | primary => "primary"
  | secondary => "secondary"
  | outline => "outline"
  | ghost => "ghost"
  | destructive => "destructive"

/-- The variant with this text form. -/
def named? (text : String) : Option Variant :=
  all.find? fun variant => variant.word == text

end Variant

namespace Size

/-- Every size. -/
def all : List Size := [sm, md, lg, icon]

/-- The text form of a size. -/
def word : Size → String
  | sm => "sm"
  | md => "md"
  | lg => "lg"
  | icon => "icon"

/-- The size with this text form. -/
def named? (text : String) : Option Size :=
  all.find? fun size => size.word == text

end Size

namespace Tone

/-- Every tone, the one that says nothing first. -/
def all : List Tone := [neutral, success, warning, danger]

/-- The text form of a tone. -/
def word : Tone → String
  | neutral => "neutral"
  | success => "success"
  | warning => "warning"
  | danger => "danger"

/-- The tone with this text form. -/
def named? (text : String) : Option Tone :=
  all.find? fun tone => tone.word == text

end Tone

/-- The classes of a button. -/
def buttonClass (variant : Variant) (size : Size) : String :=
  "btn btn--" ++ variant.word ++ " btn--" ++ size.word

/-- What is said about a button. -/
structure Button where
  variant : Variant := default
  size : Size := default
  isDisabled : Bool := false
  title : Option String := none
  deriving DecidableEq, Repr

/-- The attributes of a button. -/
def Button.attributes (button : Button) : Attributes where
  named :=
    valued "type" "button" :: (if button.isDisabled then [("disabled", none)] else [])
      ++ button.title.toList.map (valued "title")
  className := some (buttonClass button.variant button.size)

variable {σ : Type}

/-- A button around some content. -/
def button (settings : Button) (children : List (Component σ)) : Component σ :=
  .element "button" settings.attributes children

/-- A badge with a label. -/
def badge (tone : Tone) (label : String) : Component σ :=
  .element "span" (classed ("badge badge--" ++ tone.word)) [.text label]

/-- An element with a class and some content. -/
def boxed (tag className : String) (children : List (Component σ)) : Component σ :=
  .element tag (classed className) children

/-- The content of a page beside its sidebar. -/
def inset (children : List (Component σ)) : Component σ :=
  boxed "main" "sidebar-inset" children

/-- A list of menu entries. -/
def menu (children : List (Component σ)) : Component σ :=
  boxed "ul" "sidebar-menu" children

end DashKit
