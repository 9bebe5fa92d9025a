import DashKit.Storage

/-!
# Shared Hosts

Storages and color flags that several parts of a page hold at once.

A copy of a memory is the same memory: what is saved through one is found
through the other, whenever the copy was made. The same goes for a color flag.
So both are kept as `Shared` contents, which know nothing of what they contain:
a handle is only the number of the content it stands for, and copying it makes
another handle with the same number. A storage that is switched off is shared
like any other, and there is nothing to find in it.

## Main definitions

* `Shared`: Contents, and the handles to them.
* `Shared.Deed`, `Shared.step`: A new content, a copy of a handle, or a change
  through one.
* `Shared.read?`: The content that a handle stands for.
* `Hosts`: Storages and flags.
* `Hosts.Request`, `Hosts.Reply`, `Hosts.step`: What is asked of them.
-/

namespace DashKit

/-- Contents with the handles to them. A handle is the place of a number in
    `handles`, and the number is the place of its content. -/
structure Shared (σ : Type) where
  contents : List σ := []
  handles : List Nat := []
  deriving DecidableEq, Repr

namespace Shared

/-- What is done to shared contents. A change is told by a value of type `ω`. -/
inductive Deed (σ ω : Type)
  /-- A new content with its handle. -/
  | add (content : σ)
  /-- A copy of a handle. -/
  | copy (handle : Nat)
  /-- A change of the content of a handle. -/
  | change (handle : Nat) (order : ω)
  deriving DecidableEq, Repr

variable {σ ω : Type}

/-- One deed, where `apply` carries out a change. A handle that was not given
    out is left alone. -/
def step (apply : ω → σ → σ) (deed : Deed σ ω) (shared : Shared σ) : Shared σ :=
  match deed with
  | .add content =>
      { contents := shared.contents ++ [content]
        handles := shared.handles ++ [shared.contents.length] }
  | .copy handle =>
      match shared.handles[handle]? with
      | none => shared
      | some place => { shared with handles := shared.handles ++ [place] }
  | .change handle order =>
      match shared.handles[handle]? with
      | none => shared
      | some place => { shared with contents := shared.contents.modify place (apply order) }

/-- The content that a handle stands for. -/
def read? (shared : Shared σ) (handle : Nat) : Option σ :=
  shared.handles[handle]?.bind fun place => shared.contents[place]?

end Shared

/-- The number of keys of a memory. -/
def Device.size? : Device → Option Nat
  | memory entries => some entries.length
  | disabled => none
  | cookies _ => none

/-- The storages and the flags that the parts of a page hold. -/
structure Hosts where
  storages : Shared Device := {}
  flags : Shared Bool := {}
  deriving DecidableEq, Repr

namespace Hosts

/-- What is asked of storages and flags. -/
inductive Request
  /-- A new memory, into which the seed is saved if there is one. -/
  | memory (seed : Option (String × String))
  /-- A storage that is switched off. -/
  | disabled
  /-- A copy of the handle of a storage. -/
  | copyStorage (storage : Nat)
  | load (storage : Nat) (key : String)
  | save (storage : Nat) (key value : String)
  /-- The number of keys. -/
  | size (storage : Nat)
  /-- Whether there are no keys. -/
  | isEmpty (storage : Nat)
  /-- A new flag. -/
  | flag (dark : Bool)
  /-- A copy of the handle of a flag. -/
  | copyFlag (flag : Nat)
  | setDark (flag : Nat) (dark : Bool)
  | prefersDark (flag : Nat)
  deriving DecidableEq, Repr

/-- What is answered. -/
inductive Reply
  /-- The handle of what is new. -/
  | handle (number : Nat)
  | text (found : Option String)
  | count (number : Option Nat)
  | truth (value : Option Bool)
  | done
  deriving DecidableEq, Repr

/-- Saves a text under a key. -/
def keep (entry : String × String) (device : Device) : Device :=
  Device.storage.save entry.1 entry.2 device

/-- Sets a flag, whatever it was. -/
def settle (dark : Bool) (_ : Bool) : Bool :=
  dark

/-- A memory with its seed. -/
def seeded (seed : Option (String × String)) : Device :=
  seed.toList.foldl (fun device entry => keep entry device) (.memory [])

/-- The text under a key. -/
def load (hosts : Hosts) (storage : Nat) (key : String) : Option String :=
  (hosts.storages.read? storage).bind fun device => (Device.storage.load key device).1

/-- The number of keys, for a handle that stands for a memory. -/
def size? (hosts : Hosts) (storage : Nat) : Option Nat :=
  (hosts.storages.read? storage).bind Device.size?

/-- A deed on the storages. -/
def onStorages (hosts : Hosts) (deed : Shared.Deed Device (String × String)) : Hosts :=
  { hosts with storages := hosts.storages.step keep deed }

/-- A deed on the flags. -/
def onFlags (hosts : Hosts) (deed : Shared.Deed Bool Bool) : Hosts :=
  { hosts with flags := hosts.flags.step settle deed }

/-- One request. -/
def step (request : Request) (hosts : Hosts) : Reply × Hosts :=
  match request with
  | .memory seed =>
      (.handle hosts.storages.handles.length, hosts.onStorages (.add (seeded seed)))
  | .disabled => (.handle hosts.storages.handles.length, hosts.onStorages (.add .disabled))
  | .copyStorage storage =>
      (.handle hosts.storages.handles.length, hosts.onStorages (.copy storage))
  | .load storage key => (.text (hosts.load storage key), hosts)
  | .save storage key value => (.done, hosts.onStorages (.change storage (key, value)))
  | .size storage => (.count (hosts.size? storage), hosts)
  | .isEmpty storage => (.truth ((hosts.size? storage).map (· == 0)), hosts)
  | .flag dark => (.handle hosts.flags.handles.length, hosts.onFlags (.add dark))
  | .copyFlag flag => (.handle hosts.flags.handles.length, hosts.onFlags (.copy flag))
  | .setDark flag dark => (.done, hosts.onFlags (.change flag dark))
  | .prefersDark flag => (.truth (hosts.flags.read? flag), hosts)

end Hosts

end DashKit
