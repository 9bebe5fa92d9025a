import DashKit.Domain.Allowed
import DashKit.Domain.Composition
import DashKit.Domain.Direction
import DashKit.Domain.Image
import DashKit.Domain.Joining
import DashKit.Domain.Punycode

/-!
# Domains

The names of hosts, in all scripts.

A domain is a list of labels between dots. Before anything is asked of it,
every character is replaced by what it stands for and the whole is brought into
its normal form. So two ways of writing a domain that nobody can tell apart are
the same domain, and a dot of another script is a dot.

A label that starts with a certain four characters spells another one, which
must need to be spelled and must be written as it is kept. Of every label is
asked that it does not start with a mark, that its joiners make a difference,
and, if there is a letter from right to left anywhere in the domain, that it
has one direction. Labels may be empty.

## Main definitions

* `plain?`: A domain in its normal form.
* `meaning?`: The label that a label spells.
* `read?`: A domain that makes sense.
-/

namespace DashKit

namespace Domain

/-- A domain in its normal form, when all of its characters are allowed. -/
def plain? (s : List Char) : Option (List Char) :=
  if s.all isAllowed then some (normalForm (s.flatMap image)) else none

/-- What a label that spells another one starts with. -/
def spelling : List Char := ['x', 'n', '-', '-']

/-- A label of ASCII characters. -/
def isAscii (s : List Char) : Bool :=
  s.all (· < '\x80')

/-- A label that is written as a domain keeps it. -/
def isPlain (label : List Char) : Bool :=
  label.all (fun c => isAllowed c && isKept c) && normalForm label == label

/-- The label that a label spells. Most labels spell themselves. -/
def meaning? (label : List Char) : Option (List Char) :=
  if spelling.isPrefixOf label then
    if isAscii label then
      match Punycode.decode? (label.drop spelling.length) with
      | none => none
      | some spelled =>
          if !isAscii spelled && isPlain spelled && !spelling.isPrefixOf spelled then some spelled
          else none
    else none
  else some label

/-- What is asked of a label by itself. -/
def isLabel (label : List Char) : Bool :=
  !label.head?.any isMark && hasFittingJoiners label

/-- What is asked of labels together: as soon as one of them has a letter from
    right to left, each has a direction. -/
def areReadable (labels : List (List Char)) : Bool :=
  let directions := labels.map fun label => label.map Direction.of
  !directions.any (·.any Direction.isFromRight) || directions.all isReadable

/-- A domain in its normal form, when it makes sense. -/
def read? (s : List Char) : Option (List Char) :=
  match plain? s with
  | none => none
  | some domain =>
      match (Text.fields '.' domain).mapM meaning? with
      | none => none
      | some labels =>
          if labels.all isLabel && areReadable labels then some domain else none

end Domain

end DashKit
