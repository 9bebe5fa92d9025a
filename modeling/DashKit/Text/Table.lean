import DashKit.Text.Digits
import DashKit.Text.Fields

/-!
# Tables of Characters

Properties of characters, read from text.

A property that the tables of Unicode define holds for some thousand
characters. Such a property is written down as text: words between blanks,
each a code point in hexadecimal, or two with a hyphen for a range. Where a
word ends in a colon it is a heading for the words behind it.

## Main definitions

* `words`: The words of a table.
* `Ranges`: A property of characters.
* `headed`: The words of a table with their headings.
-/

namespace DashKit

namespace Text

/-- The words of a table. -/
def words (lines : List String) : List (List Char) :=
  lines.flatMap fun line => fields ' ' line.toList

/-- The code point that a word spells. -/
def codePoint (word : List Char) : Nat :=
  (number? 16 word).getD 0

/-- Closed ranges of code points. -/
abbrev Ranges := List (Nat × Nat)

/-- The range that a word stands for. -/
def range (word : List Char) : Nat × Nat :=
  match splitFirst '-' word with
  | none => (codePoint word, codePoint word)
  | some (first, last) => (codePoint first, codePoint last)

namespace Ranges

/-- The ranges of a table without headings. -/
def read (lines : List String) : Ranges :=
  (words lines).map range

/-- A character lies in one of the ranges. -/
def has (ranges : Ranges) (c : Char) : Bool :=
  ranges.any fun range => range.1 ≤ c.toNat && c.toNat ≤ range.2

end Ranges

/-- Words with the headings that they stand under, in front of which `heading`
    stands. -/
def headedFrom (heading : List Char) : List (List Char) → List (List Char × List Char)
  | [] => []
  | word :: rest =>
      if word.getLast? = some ':' then headedFrom word.dropLast rest
      else (heading, word) :: headedFrom heading rest

/-- The words of a table with the headings that they stand under. -/
def headed (lines : List String) : List (List Char × List Char) :=
  headedFrom [] (words lines)

end Text

end DashKit
