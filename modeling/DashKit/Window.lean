/-!
# Windows

What a page may ask of the window it runs in.

A page that is drawn on a server runs in no window. Every question then has
an answer that stands for nothing: there is no width and no cookie header, the
host does not prefer dark colors, and no listener can be registered.

## Main definitions

* `Window`: What is asked of a window.
* `Window.width?`, `Window.isDark`, `Window.listens`, `Window.cookies?`: The
  questions, asked where there may be no window.
-/

namespace DashKit

/-- A window, as far as a page asks about it. -/
structure Window where
  width : Float
  prefersDark : Bool
  cookies : String

namespace Window

/-- The query that tells whether the host prefers dark colors. -/
def darkQuery : String := "(prefers-color-scheme: dark)"

/-- The width of the window, if there is one. -/
def width? (window : Option Window) : Option Float :=
  window.map width

/-- The host prefers dark colors. Without a window it does not. -/
def isDark (window : Option Window) : Bool :=
  (window.map prefersDark).getD false

/-- A listener can be registered. -/
def listens (window : Option Window) : Bool :=
  window.isSome

/-- The cookie header, if there is a window. -/
def cookies? (window : Option Window) : Option String :=
  window.map cookies

end Window

end DashKit
