import DashKit.Address.Basic
import DashKit.Domain.Basic

/-!
# Authorities

What an address says about the place it leads to: a person, a host and a port.

The person stands in front of the last `@` and the port behind a colon. A host
is a domain, or a number of four bytes between dots, or in brackets a number
of sixteen bytes in groups between colons.

Where a request leads does not matter for its path. But an address whose host
or port makes no sense is no address, and so the authority is read although
only what is behind it is kept.

On the web a host is a domain, which may spell its bytes in percent notation.
In a scheme that nothing is known about it is any text without the marks of an
address.

## Main definitions

* `isIpv4`: A number of four bytes.
* `isIpv6`: A number of sixteen bytes.
* `AddressKind.readHost`: The host that is named.
* `AddressKind.behindAuthority`: What follows an authority that makes sense.
-/

namespace DashKit

/-- The bytes of a text that may spell some of them in percent notation. A
    percent sign without two digits stands for itself. -/
def percentDecoded : List Char → List UInt8
  | [] => []
  | '%' :: a :: b :: r =>
      match Text.hexDigit? a, Text.hexDigit? b with
      | some high, some low => UInt8.ofNat (high * 16 + low) :: percentDecoded r
      | _, _ => String.utf8EncodeChar '%' ++ percentDecoded (a :: b :: r)
  | c :: r => String.utf8EncodeChar c ++ percentDecoded r

/-- Characters with a meaning in an address, which no host has. -/
def hostMarks : List Char :=
  ['#', '/', ':', '<', '>', '?', '@', '[', '\\', ']', '^', '|']

/-- A character that no domain has. -/
def isBarredFromDomains (c : Char) : Bool :=
  c ≤ ' ' || c == '\x7f' || c == '%' || hostMarks.contains c

/-- A character that no host has in any scheme. -/
def isBarredFromHosts (c : Char) : Bool :=
  c == '\x00' || c == ' ' || hostMarks.contains c

/-- The parts of a name between its dots. A dot may end the name. -/
def nameParts (name : List Char) : List (List Char) :=
  let parts := Text.fields '.' name
  if parts.getLast? = some [] then parts.dropLast else parts

/-- The number that a part of a name spells: in octal behind a zero, in
    hexadecimal behind `0x`. -/
def partNumber? : List Char → Option Nat
  | [] => none
  | '0' :: 'x' :: r => Text.number? 16 r
  | '0' :: 'X' :: r => Text.number? 16 r
  | '0' :: c :: r => Text.number? 8 (c :: r)
  | s => Text.number? 10 s

/-- A name that ends in a number can be nothing but a number. -/
def endsInNumber (name : List Char) : Bool :=
  match (nameParts name).getLast? with
  | none => false
  | some part => (!part.isEmpty && part.all Char.isDigit) || (partNumber? part).isSome

/-- A number of four bytes. The last part stands for all bytes that the parts
    in front of it have left. -/
def isIpv4 (name : List Char) : Bool :=
  match ((nameParts name).mapM partNumber?).map List.reverse with
  | some (last :: front) =>
      front.length ≤ 3 && front.all (· ≤ 255) && last < Nat.pow 256 (4 - front.length)
  | _ => false

/-- A group of sixteen bits. -/
def isGroup (s : List Char) : Bool :=
  !s.isEmpty && s.length ≤ 4 && (Text.number? 16 s).isSome

/-- A byte in decimal, without a leading zero. -/
def isDecimalByte (s : List Char) : Bool :=
  !s.isEmpty && (s.head? != some '0' || s.length == 1) && (Text.number? 10 s).any (· ≤ 255)

/-- The number of groups between colons. The last two may be written as four
    bytes in decimal. -/
def groupCount? : List (List Char) → Option Nat
  | [] => some 0
  | [group] =>
      let bytes := Text.fields '.' group
      if isGroup group then some 1
      else if bytes.length = 4 ∧ bytes.all isDecimalByte then some 2
      else none
  | group :: groups => if isGroup group then (groupCount? groups).map (· + 1) else none

/-- What stands before and after the first gap, two colons side by side. -/
def splitGap : List Char → Option (List Char × List Char)
  | ':' :: ':' :: r => some ([], r)
  | c :: r => (splitGap r).map fun parts => (c :: parts.1, parts.2)
  | [] => none

/-- The groups between colons. -/
def groupsOf (s : List Char) : List (List Char) :=
  if s = [] then [] else Text.fields ':' s

/-- A number of sixteen bytes, in eight groups. A gap stands for one or more
    groups of zero. -/
def isIpv6 (s : List Char) : Bool :=
  match splitGap s with
  | none => groupCount? (groupsOf s) == some 8
  | some (front, back) =>
      (groupsOf front).all isGroup &&
        (groupCount? (groupsOf back)).any fun n => (groupsOf front).length + n ≤ 7

/-- The host that a domain names, which may turn out to be a number. -/
def readDomain (host : List Char) : Except AddressFault (List Char) :=
  match String.fromUTF8? ⟨(percentDecoded host).toArray⟩ with
  | none => .error .invalidDomain
  | some domain =>
      match Domain.read? domain.toList with
      | none => .error .invalidDomain
      | some name =>
          if name.any isBarredFromDomains then .error .invalidDomain
          else if name = [] then .error .emptyHost
          else if endsInNumber name && !isIpv4 name then .error .invalidIpv4
          else .ok name

/-- What stands in front of the last `@`, if there is one, and what stands
    behind it. -/
def splitPerson (s : List Char) : Option (List Char) × List Char :=
  match Text.splitFirst '@' s.reverse with
  | none => (none, s)
  | some (place, person) => (some person.reverse, place.reverse)

/-- A host, and from its colon on the port behind it. A colon between brackets
    belongs to the host. -/
def splitPort : Bool → List Char → List Char × List Char
  | _, [] => ([], [])
  | isInside, c :: r =>
      if c == ':' && !isInside then ([], c :: r)
      else
        let parts := splitPort ((isInside && c != ']') || c == '[') r
        (c :: parts.1, parts.2)

/-- A port is a number of sixteen bits, or missing behind its colon. -/
def isPort (digits : List Char) : Bool :=
  (Text.number? 10 digits).any (· < 0x10000)

namespace AddressKind

variable (kind : AddressKind)

/-- The host that is named. There may be none. -/
def readHost (host : List Char) : Except AddressFault (List Char) :=
  if host = [] then .ok []
  else if host.head? = some '[' then
    if host.getLast? = some ']' ∧ isIpv6 (host.drop 1).dropLast then .ok host
    else .error .invalidIpv6
  else if kind = foreign then
    if host.any isBarredFromHosts then .error .invalidCharacter else .ok host
  else readDomain host

/-- Whether there has to be a host. Outside the web that is so where a person
    or a port is named, or where only the mark of a person stands before the
    rest of the address. -/
def needsHost (person : Option (List Char)) (port rest : List Char) : Bool :=
  kind == web || !port.isEmpty ||
    match person with
    | none => false
    | some [] => !rest.isEmpty
    | some name => name != [':']

/-- What is behind an authority. Where a backslash is no slash it still ends a
    port. -/
def behindAuthority (s : List Char) : Except AddressFault (List Char) :=
  let (person, place) := splitPerson (s.takeWhile fun c => !kind.endsHost c)
  let rest := s.dropWhile fun c => !kind.endsHost c
  let (host, port) := splitPort false place
  let digits := (port.drop 1).takeWhile Char.isDigit
  let behind := (port.drop 1).dropWhile Char.isDigit
  if host = [] ∧ kind.needsHost person port rest then .error .emptyHost
  else
    match kind.readHost host with
    | .error fault => .error fault
    | .ok _ =>
        if isPort digits ∧ (behind = [] ∨ behind.head? = some '\\') then .ok (behind ++ rest)
        else .error .invalidPort

end AddressKind

end DashKit
