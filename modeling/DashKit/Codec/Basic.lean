import DashKit.Json.Record
import DashKit.Json.Value

/-!
# Codecs

Types whose values have a JSON form.

A `Codec` pairs a reader with a function into JSON trees. Reading is given
the number of brackets that may still be entered, and a whole text starts
with `maxDepth` of them. Plain values, optional ones, lists and pairs have
their codecs here; those of the kit's own types are built from them.

## Main definitions

* `Codec`: The reader and the tree of a type.
* `decode`, `encode`: A value from a text and a text from a value.
* `Field.of`, `required`: Fields of a record by their codecs.
-/

namespace DashKit

namespace Json

/-- A type whose values have a JSON form. -/
class Codec (α : Type) where
  reader : Nat → Reader α
  value : α → Value

/-- How many brackets of a text may be open at once. -/
def maxDepth : Nat := 127

variable {α β σ : Type}

/-- The value that a text stands for. -/
def decode (α : Type) [Codec α] (text : String) : Except Refusal α :=
  match (Codec.reader maxDepth : Reader α).readAll text.toList with
  | .error failure => .error (failure.refusal text.toList)
  | .ok a => .ok a

/-- The text of a value, without gaps. -/
def encode [Codec α] (a : α) : String :=
  String.ofList (Codec.value a).write

instance : Codec Bool where
  reader _ := .truth
  value := .truth

instance : Codec String where
  reader _ := .text
  value := .text

instance : Codec Char where
  reader _ := .char
  value c := .text (String.singleton c)

instance : Codec UInt32 where
  reader _ := .word32
  value n := .number (.natural n.toNat)

instance [Codec α] : Codec (Option α) where
  reader depth := (Codec.reader depth).optional
  value
    | none => .null
    | some a => Codec.value a

instance [Codec α] : Codec (List α) where
  reader depth := .list depth Codec.reader
  value items := .list (items.map Codec.value)

instance [Codec α] [Codec β] : Codec (α × β) where
  reader depth := .pair depth Codec.reader Codec.reader
  value p := .list [Codec.value p.1, Codec.value p.2]

/-- A codec of words, one for each member of a closed list. -/
abbrev Codec.words (members : List α) (word : α → String) : Codec α where
  reader depth := .member depth (members.map fun a => (word a, a))
  value a := .text (word a)

/-- A field with the codec of its type. -/
def Field.of [Codec β] (depth : Nat) (name : String) (set : β → σ → σ) : Field σ where
  name := name
  reader := (Codec.reader depth).map set

/-- The content of a field that must not be missing. -/
def required (name : String) : Option β → Except String β
  | none => .error name
  | some b => .ok b

end Json

end DashKit
