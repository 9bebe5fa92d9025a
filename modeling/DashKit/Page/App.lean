import DashKit.Page.Catalog
import DashKit.Page.Dashboard

/-!
# The Application

The pages behind their paths, and the document a server answers with.

Two paths have a page. The root has one, also where a request has no path at
all, and so has the dashboard, with or without a slash at the end; every other
path has a sentence. A page is set up in a scope, so that what it provides is
not found from the menu beside it. The menu marks its entry by comparing paths as they are.
A request that is no address ends the page where the router is set up.

## Main definitions

* `routed`: The content behind a path.
* `requested`: The content for a request.
* `app`: The application for a request.
* `document`: The whole document.
-/

namespace DashKit

variable {σ : Type}

/-- The content behind a path. -/
def routed (path : String) : Component σ :=
  if path = "" ∨ path = "/" then .scope [catalogPage]
  else if path = "/dashboard" ∨ path = "/dashboard/" then .scope [dashboardPage]
  else .text "Page not found."

/-- The content for a request. There is none where the router finds no
    address. -/
def requested (request : String) : List (Component σ) :=
  match pathname request with
  | .error _ => []
  | .ok path => [routed path]

/-- The menu beside every page. -/
def appMenu : Component σ :=
  .panel
    [boxed "div" "sidebar__brand" [.text "Design System"],
     menu [.menuItem "Components" "/" "◧", .menuItem "Dashboard" "/dashboard" "▤"],
     .rail]

/-- The application for a request. -/
def app (request : String) : Component σ :=
  .design {} SchemeSource.indifferent
    [.router request
      [.sidebarProvider {} none Storage.disabled
        [appMenu,
         inset (boxed "header" "app-header" [.trigger, .switcher] :: requested request)]]]

/-- The head of a document whose scripts have this name in this directory. -/
def documentHead (scripts directory : String) : Component σ :=
  let place := "/" ++ directory ++ "/" ++ scripts
  .element "head" {}
    [.void "meta" { named := [valued "charset" "utf-8"] },
     .void "meta"
      { named := [valued "name" "viewport",
          valued "content" "width=device-width, initial-scale=1"] },
     .void "link" { named := [valued "rel" "modulepreload", valued "href" (place ++ ".js")] },
     .void "link"
      { named := [valued "rel" "preload", valued "href" (place ++ "_bg.wasm"), valued "as" "fetch",
          valued "type" "application/wasm", valued "crossorigin" ""] },
     .element "script" { named := [valued "type" "module"] } [],
     .void "link"
      { named := [valued "id" "leptos", valued "rel" "stylesheet",
          valued "href" "/pkg/design-system.css"] },
     .element "title" {} [.text "Design System"]]

/-- The whole document for a request. -/
def document (scripts request : String) : List (Component σ) :=
  [.verbatim "<!DOCTYPE html>",
   .element "html" { named := [valued "lang" "en"] }
    [documentHead scripts "pkg", .element "body" {} [app request]]]

end DashKit
