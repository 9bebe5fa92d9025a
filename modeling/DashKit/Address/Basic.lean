import DashKit.Text.Fields

/-!
# Addresses

The address that a request names, and the marks that take it apart.

An address is written the way a link on a page would be. Mostly it is nothing
but a path. It may also name a host, or a scheme of its own, and query and
fragment may follow the path.

How an address is taken apart depends on its scheme. On the web a backslash is
as good as a slash and there is always a host. In a scheme that nothing is
known about a backslash is an ordinary character, and both the host and the
path may be missing.

Tabs and line breaks do not count. Only in the path of a file one of them still
shows, and so they are kept until it is known what an address is.

## Main definitions

* `AddressKind`: What is known about a scheme.
* `AddressFault`: Why an address cannot be read.
* `tidied`: An address without stray blanks.
* `unbroken`: A text without tabs and line breaks.
* `splitScheme`: The scheme in front of an address.
-/

namespace DashKit

/-- Why an address cannot be read. -/
inductive AddressFault
  /-- There is no host where one has to be. -/
  | emptyHost
  /-- The port is no number, or too large a number. -/
  | invalidPort
  /-- The host has a character that no domain has. -/
  | invalidDomain
  /-- The host ends in a number but is no number of four bytes. -/
  | invalidIpv4
  /-- The host stands in brackets but is no number of sixteen bytes. -/
  | invalidIpv6
  /-- The host has a character that no host has in any scheme. -/
  | invalidCharacter
  deriving DecidableEq, Repr

/-- The name of a fault in a diagnostic. -/
def AddressFault.word : AddressFault → String
  | emptyHost => "EmptyHost"
  | invalidPort => "InvalidPort"
  | invalidDomain => "IdnaError"
  | invalidIpv4 => "InvalidIpv4Address"
  | invalidIpv6 => "InvalidIpv6Address"
  | invalidCharacter => "InvalidDomainCharacter"

/-- What is known about the scheme of an address. -/
inductive AddressKind
  /-- A scheme of the web, whose addresses name a host. -/
  | web
  /-- Files, whose addresses may name a drive. -/
  | file
  /-- A scheme that nothing is known about. -/
  | foreign
  deriving DecidableEq, Repr

/-- The query or the fragment starts here. -/
def endsPath (c : Char) : Bool :=
  c == '?' || c == '#'

namespace AddressKind

/-- What is known about a scheme. -/
def ofScheme (scheme : String) : AddressKind :=
  if scheme = "file" then file
  else if scheme ∈ ["http", "https", "ws", "wss", "ftp"] then web
  else foreign

variable (kind : AddressKind)

/-- A character that separates segments. -/
def isSlash (c : Char) : Bool :=
  c == '/' || (c == '\\' && kind != foreign)

/-- A character that ends what is said about a host. -/
def endsHost (c : Char) : Bool :=
  kind.isSlash c || endsPath c

end AddressKind

/-- The letter of a drive, whose mark is a colon or a bar. -/
def drive? : List Char → Option Char
  | [letter, mark] =>
      if letter.isAlpha && (mark == ':' || mark == '|') then some letter else none
  | _ => none

/-- A character that a scheme may have after its first letter. -/
def isSchemeChar (c : Char) : Bool :=
  c.isAlphanum || c == '+' || c == '-' || c == '.'

/-- A tab or a line break. -/
def isBreak (c : Char) : Bool :=
  c == '\t' || c == '\n' || c == '\r'

/-- A text without tabs and line breaks. -/
def unbroken (s : List Char) : List Char :=
  s.filter fun c => !isBreak c

/-- An address without the spaces and control characters at its ends. -/
def tidied (s : List Char) : List Char :=
  let front := s.dropWhile (· ≤ ' ')
  (front.reverse.dropWhile (· ≤ ' ')).reverse

/-- The scheme in front of an address, in lower case, and what is behind its
    colon. Tabs and line breaks in it do not count. -/
def splitScheme (s : List Char) : Option (String × List Char) :=
  match Text.splitFirst ':' s with
  | none => none
  | some (name, rest) =>
      match unbroken name with
      | [] => none
      | c :: name =>
          if c.isAlpha && name.all isSchemeChar then
            some (String.ofList ((c :: name).map Char.toLower), rest)
          else none

end DashKit
