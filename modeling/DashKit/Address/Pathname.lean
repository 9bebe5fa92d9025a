import DashKit.Address.Authority

/-!
# Request Paths

The path that a request asks for.

A request is an address that is resolved against the root of a site. The path
is what follows its scheme and its authority; query and fragment are no part
of it.

A path is a list of segments. One that consists of a single dot stands for the
place itself and one of two dots for the place above, and both are resolved,
also where the dots are spelled in percent notation. Nothing is above a
segment that could be a drive. All other segments are kept, except that a
character which must not stand in a path is replaced by its bytes in percent
notation.

On the web there is always a path. In a scheme that nothing is known about it
may be missing, and if it does not start with a slash it is opaque, a text
without segments.

## Main definitions

* `dots?`: The number of dots in a segment made of dots.
* `above`: The place above a path.
* `AddressKind.resolve`: The segments without their dots.
* `pathname`: The path of a request.
-/

namespace DashKit

/-- A byte in percent notation, with upper-case digits. -/
def percentByte (b : UInt8) : List Char :=
  ['%', (Nat.digitChar (b.toNat / 16)).toUpper, (Nat.digitChar (b.toNat % 16)).toUpper]

/-- A character as it stands in a path. Control characters and everything
    beyond ASCII are spelled in percent notation, and so are the characters
    that are `reserved`. -/
def spelled (reserved : Char → Bool) (c : Char) : List Char :=
  if c < ' ' || '\x7f' ≤ c || reserved c then
    (String.utf8EncodeChar c).flatMap percentByte
  else [c]

/-- The characters that must not stand in a segment although they are
    printable. -/
def isReserved (c : Char) : Bool :=
  c == ' ' || c == '"' || c == '<' || c == '>' || c == '\x60' || c == '\x7b' || c == '\x7d'

/-- The number of dots in a segment that consists of dots. A dot may be spelled
    in percent notation. -/
def dots? : List Char → Option Nat
  | [] => some 0
  | '.' :: r => (dots? r).map (· + 1)
  | '%' :: '2' :: 'e' :: r => (dots? r).map (· + 1)
  | '%' :: '2' :: 'E' :: r => (dots? r).map (· + 1)
  | _ => none

/-- A segment that could be a drive. A backslash that is no slash may follow. -/
def isDriveLike (segment : List Char) : Bool :=
  (drive? (segment.takeWhile (· != '\\'))).isSome

/-- The place above a path, the last segment first. There is none above the
    root or above what could be a drive. -/
def above : List (List Char) → List (List Char)
  | [] => []
  | segment :: path => if isDriveLike segment then segment :: path else path

namespace AddressKind

variable (kind : AddressKind)

/-- The letter of a drive and what stands behind it in the same segment, when
    a tab or a line break keeps the two apart. -/
def brokenDrive? (segment : List Char) : Option (Char × List Char) :=
  match segment.dropWhile isBreak with
  | [] => none
  | letter :: r =>
      match r.dropWhile isBreak with
      | ':' :: c :: rest =>
          if letter.isAlpha && isBreak c && !(unbroken rest).isEmpty then
            some (letter, unbroken rest)
          else none
      | _ => none

/-- One more segment behind a path, the last segment first. The drive that a
    file is on is marked with a colon. -/
def push (path : List (List Char)) (segment : List Char) : List (List Char) :=
  match kind, path, drive? (unbroken segment), brokenDrive? segment with
  | file, [], some letter, _ => [[letter, ':']]
  | file, [], _, some (letter, rest) => [rest.flatMap (spelled isReserved), [letter, ':']]
  | _, _, _, _ => (unbroken segment).flatMap (spelled isReserved) :: path

/-- The segments behind a path, resolved one after another. A path that ends
    in dots ends in a slash. -/
def resolve (path : List (List Char)) : List (List Char) → List (List Char)
  | [] => path
  | [segment] =>
      match dots? (unbroken segment) with
      | some 1 => [] :: path
      | some 2 => [] :: above path
      | _ => kind.push path segment
  | segment :: segments =>
      match dots? (unbroken segment) with
      | some 1 => resolve path segments
      | some 2 => resolve (above path) segments
      | _ => resolve (kind.push path segment) segments

/-- The path whose segments stand in front of a text, behind the root. In the
    address of a file, empty segments in front are dropped. -/
def rooted (s : List Char) : List Char :=
  let text := (s.takeWhile fun c => !endsPath c).map fun c => if kind.isSlash c then '/' else c
  let path := (kind.resolve [] (Text.fields '/' text)).reverse.flatMap ('/' :: ·)
  match kind with
  | file => '/' :: path.dropWhile (· == '/')
  | _ => path

/-- What is behind the slash in front of a text, if there is one. -/
def afterSlash? (s : List Char) : Option (List Char) :=
  match s.dropWhile isBreak with
  | [] => none
  | c :: r => if kind.isSlash c then some r else none

/-- The path of an address from where its authority ended. Only a scheme that
    nothing is known about can do without one. -/
def pathFrom (rest : List Char) : List Char :=
  if kind = foreign ∧ rest.head?.all endsPath then []
  else kind.rooted ((kind.afterSlash? rest).getD rest)

/-- The path of an address from its authority on. -/
def behindHost (s : List Char) : Except AddressFault (List Char) :=
  (kind.behindAuthority s).map kind.pathFrom

end AddressKind

/-- The path of an address on the web whose scheme is that of the site. Only
    more than one slash announces a host. -/
def webPath (s : List Char) : Except AddressFault (List Char) :=
  let kind := AddressKind.web
  if 2 ≤ (s.takeWhile kind.isSlash).length then kind.behindHost (s.dropWhile kind.isSlash)
  else .ok (kind.rooted ((kind.afterSlash? s).getD s))

/-- The path of an address without a scheme. Two plain slashes announce a host,
    which starts right behind them, so that a third slash leaves no room for
    one. -/
def sitePath : List Char → Except AddressFault (List Char)
  | '/' :: '/' :: r => AddressKind.web.behindHost r
  | s => webPath s

/-- The host that stands for the place where a file is looked for. -/
def localHost : List Char := "localhost".toList

/-- The path of a file behind two slashes. What stands where a host would may
    be a drive, and a host has neither a person nor a port. -/
def filePathAt (s : List Char) : Except AddressFault (List Char) :=
  let kind := AddressKind.file
  let host := unbroken (s.takeWhile fun c => !kind.endsHost c)
  let rest := s.dropWhile fun c => !kind.endsHost c
  if (drive? host).isSome then .ok (kind.rooted s)
  else
    match kind.readHost host with
    | .error fault => .error fault
    | .ok name =>
        -- Without a host the first slash is part of the path.
        .ok (if name = [] ∨ name = localHost then kind.rooted rest else kind.pathFrom rest)

/-- The path of a file. -/
def filePath (s : List Char) : Except AddressFault (List Char) :=
  let kind := AddressKind.file
  match kind.afterSlash? s with
  | none => .ok (kind.rooted s)
  | some r =>
      match kind.afterSlash? r with
      | none => .ok (kind.rooted r)
      | some t => filePathAt t

/-- The path in a scheme that nothing is known about. -/
def foreignPath : List Char → Except AddressFault (List Char)
  | '/' :: '/' :: r => AddressKind.foreign.behindHost r
  | '/' :: r => .ok (AddressKind.foreign.rooted r)
  | s => .ok ((s.takeWhile fun c => !endsPath c).flatMap (spelled fun _ => false))

/-- The scheme of the site that requests are sent to. -/
def siteScheme : String := "https"

/-- The characters of the path of a request. -/
def pathCharacters (request : String) : Except AddressFault (List Char) :=
  let s := tidied request.toList
  match splitScheme s with
  | none => sitePath (unbroken s)
  | some (scheme, rest) =>
      -- The scheme of the site may be repeated in front of a mere path.
      if scheme = siteScheme then webPath (unbroken rest)
      else
        match AddressKind.ofScheme scheme with
        | .web => AddressKind.web.behindHost ((unbroken rest).dropWhile AddressKind.web.isSlash)
        | .file => filePath rest
        | .foreign => foreignPath (unbroken rest)

/-- The path of a request. -/
def pathname (request : String) : Except AddressFault String :=
  (pathCharacters request).map String.ofList

end DashKit
