import DashKit.Text.Blank
import DashKit.Text.Fields

/-!
# Cookies

The one cookie that remembers a sidebar, and how a cookie header is read.

A write names its path and its lifetime; a header lists what a browser kept,
as `name=value` pairs between semicolons. The pairs are trimmed before they
are cut at their first equals sign, so a value may contain further equals
signs but neither a semicolon nor a blank at its end. Whoever wrote them, the
first pair with the name asked for is the answer.

The sidebar keeps one flag, spelled `true` or `false`. Any other value is
treated as if the cookie were not there.

## Main definitions

* `Cookie`: A write to the browser's cookies, and `Cookie.text`.
* `Cookie.lookup`: The value under a name in a header.
* `Flag.word`, `Flag.parse?`: The spelling of the sidebar's flag.

## Theorems

* `Flag.parse?_eq_some`: Reading accepts exactly what writing produces.
-/

namespace DashKit

/-- A write to the browser's cookies. -/
structure Cookie where
  name : String
  value : String
  path : String
  /-- The lifetime in seconds. -/
  maxAge : UInt64
  deriving DecidableEq, Repr

namespace Cookie

/-- The name of the sidebar's cookie. -/
def sidebarName : String := "sidebar_state"

/-- The sidebar's cookie is seen by every page. -/
def sidebarPath : String := "/"

/-- The sidebar's cookie lives for a week. -/
def sidebarMaxAge : UInt64 := 60 * 60 * 24 * 7

/-- A write under any name with the path and the lifetime of the sidebar's. -/
def lasting (name value : String) : Cookie :=
  { name, value, path := sidebarPath, maxAge := sidebarMaxAge }

/-- The write of the sidebar's own cookie. -/
def sidebar (value : String) : Cookie :=
  lasting sidebarName value

/-- The write as the browser takes it. -/
def text (cookie : Cookie) : String :=
  cookie.name ++ "=" ++ cookie.value ++ "; path=" ++ cookie.path
    ++ "; max-age=" ++ toString cookie.maxAge.toNat

/-- The `name=value` pairs of a header. A piece without an equals sign is
    passed over. -/
def pairs (header : List Char) : List (List Char × List Char) :=
  (Text.fields ';' header).filterMap fun piece => Text.splitFirst '=' (Text.trim piece)

/-- The value of the first pair with this name. -/
def lookup (header name : String) : Option String :=
  ((pairs header.toList).find? fun pair => pair.1 == name.toList).map
    fun pair => String.ofList pair.2

end Cookie

namespace Flag

/-- The spelling of a stored flag. -/
def word : Bool → String
  | true => "true"
  | false => "false"

/-- The flag that a text spells exactly. -/
def parse? (text : String) : Option Bool :=
  if text = "true" then some true
  else if text = "false" then some false
  else none

/-- Reading accepts exactly what writing produces. -/
theorem parse?_eq_some {text : String} {flag : Bool} :
    parse? text = some flag ↔ text = word flag := by
  unfold parse?
  cases flag <;> split <;> (try split) <;> simp_all [word]

end Flag

end DashKit
