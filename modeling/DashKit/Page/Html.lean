/-!
# HTML

Elements and text, and how they are written.

Text and attribute values are escaped where they are written and nowhere
else; only the content of a style element stands as it is. A text that is
empty is written as one space, so that it leaves a node behind in the browser.

An element lists its attributes in a fixed order: those given by name first,
then its class, then its inline style. Keeping the three apart in the type
means no builder of elements has to remember it. A name without a value is
written bare, and a style always ends in a semicolon.

## Main definitions

* `Attributes`: The attributes of an element.
* `Html`: Text, verbatim text and elements.
* `Html.write`: A node as text.
-/

namespace DashKit

/-- The attributes of an element. -/
structure Attributes where
  /-- Names in order, each with its value or bare. -/
  named : List (String × Option String) := []
  className : Option String := none
  style : Option String := none
  deriving DecidableEq, Repr

/-- A node of a page. -/
inductive Html
  | text (content : String)
  /-- Text that is written as it stands. -/
  | verbatim (content : String)
  | element (tag : String) (attributes : Attributes) (children : List Html)
  /-- An element that cannot have children and has no end. -/
  | void (tag : String) (attributes : Attributes)
  deriving Repr

/-- A character of a text. -/
def escapeTextChar : Char → List Char
  | '&' => "&amp;".toList
  | '<' => "&lt;".toList
  | '>' => "&gt;".toList
  | c => [c]

/-- A character of an attribute's value. -/
def escapeValueChar : Char → List Char
  | '"' => "&quot;".toList
  | c => escapeTextChar c

/-- A text with what could be taken for markup escaped. -/
def escapeText (s : String) : String :=
  String.ofList (s.toList.flatMap escapeTextChar)

/-- An attribute's value with what could end it or be taken for markup
    escaped. -/
def escapeValue (s : String) : String :=
  String.ofList (s.toList.flatMap escapeValueChar)

namespace Attributes

/-- One attribute, bare if it has no value. -/
def writeOne (name : String) : Option String → String
  | none => " " ++ name
  | some value => " " ++ name ++ "=\"" ++ escapeValue value ++ "\""

/-- An attribute that may be missing. -/
def writeOptional (name : String) : Option String → String
  | none => ""
  | some value => writeOne name (some value)

/-- All attributes in their order, each after a space. -/
def write (attributes : Attributes) : String :=
  attributes.named.foldr (fun entry rest => writeOne entry.1 entry.2 ++ rest) ""
    ++ writeOptional "class" attributes.className
    ++ writeOptional "style" (attributes.style.map (· ++ ";"))

end Attributes

namespace Html

mutual

/-- A node as text. -/
def write : Html → String
  | text content => if content.isEmpty then " " else escapeText content
  | verbatim content => content
  | element tag attributes children =>
      "<" ++ tag ++ attributes.write ++ ">" ++ writeAll children ++ "</" ++ tag ++ ">"
  | void tag attributes => "<" ++ tag ++ attributes.write ++ ">"

/-- Nodes as text, one after another. -/
def writeAll : List Html → String
  | [] => ""
  | node :: nodes => write node ++ writeAll nodes

end

end Html

end DashKit
