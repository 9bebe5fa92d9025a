import DashKit.Cookie
import DashKit.Ledger

/-!
# Storage

Where a sidebar keeps its flag between visits.

A storage is two operations on a world of any type: loading the text under a
key and saving one. Nothing is assumed about either. A storage may forget, or
answer differently each time; a load may change the world, so that it can be
counted. Saving reports nothing, because a host whose storage is switched off
must behave like any other within a visit.

The storages here are the ones a host has: a table in memory, none at all, and
the cookies of a document, of which only the header can be read.

## Main definitions

* `Storage`: Loading and saving over a world.
* `Storage.memory`, `Storage.disabled`, `Storage.cookies`: The hosts' storages.
* `Storage.recorded`: A storage that keeps a record of its calls.
* `Device`: One of the hosts' storages, chosen at run time.
-/

namespace DashKit

/-- Loading and saving texts under keys, over a world of type `σ`. -/
structure Storage (σ : Type) where
  load : String → σ → Option String × σ
  save : String → String → σ → σ

namespace Storage

variable {σ : Type}

/-- A table in memory. -/
def memory : Storage (Ledger String String) where
  load key entries := (entries.get? key, entries)
  save key value entries := entries.put key value

/-- No storage: nothing is found and nothing is kept. -/
def disabled : Storage σ where
  load _ world := (none, world)
  save _ _ world := world

end Storage

/-- A call to a storage. -/
inductive Call
  /-- A load, with what was found. -/
  | load (key : String) (found : Option String)
  /-- A save. -/
  | save (key value : String)
  deriving DecidableEq, Repr

/-- The same storage with a record of its calls, the latest last. -/
def Storage.recorded {σ : Type} (storage : Storage σ) : Storage (σ × List Call) where
  load key world :=
    let (found, inner) := storage.load key world.1
    (found, inner, world.2 ++ [.load key found])
  save key value world :=
    (storage.save key value world.1, world.2 ++ [.save key value])

/-- The cookies of a document: the header it presents, and the writes that
    were handed to it. -/
structure CookieDocument where
  header : String
  writes : List Cookie := []
  deriving DecidableEq, Repr

/-- Texts under the names of cookies. A write has the path and the lifetime
    of the sidebar's cookie; what the header presents after it is up to the
    browser. -/
def Storage.cookies : Storage CookieDocument where
  load key document := (Cookie.lookup document.header key, document)
  save key value document :=
    { document with writes := document.writes ++ [Cookie.lasting key value] }

/-- One of the storages a host may have. -/
inductive Device
  | memory (entries : Ledger String String)
  | disabled
  | cookies (document : CookieDocument)
  deriving DecidableEq, Repr

namespace Device

/-- A world changed inside a device. -/
private def through {α β : Type} (wrap : α → Device) (result : β × α) : β × Device :=
  (result.1, wrap result.2)

/-- The storage of whatever device is there. -/
def storage : Storage Device where
  load key
    | memory entries => through memory (Storage.memory.load key entries)
    | disabled => (none, disabled)
    | cookies document => through cookies (Storage.cookies.load key document)
  save key value
    | memory entries => memory (Storage.memory.save key value entries)
    | disabled => disabled
    | cookies document => cookies (Storage.cookies.save key value document)

/-- The device with a new header, if it presents one. -/
def withHeader (header : String) : Device → Device
  | memory entries => memory entries
  | disabled => disabled
  | cookies document => cookies { document with header }

/-- The cookies that were written. -/
def writes : Device → List Cookie
  | memory _ => []
  | disabled => []
  | cookies document => document.writes

end Device

end DashKit
