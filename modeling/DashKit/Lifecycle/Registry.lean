import DashKit.Lifecycle.Listener

/-!
# Registries

Who owns which listener, over a run of operations.

A listener has one owner at a time: a slot of the caller, a scope, or another
listener that will give it back together with itself. Operations move it from
one owner to another or give it back, and every release is reported to a log.
A slot or a scope that was emptied stays empty, so a place never comes to mean
something else.

## Main definitions

* `Registry`: Slots, scopes and the log.
* `Act`, `Answer`: An operation and what it answers.
* `Registry.step`: One operation.
* `Registry.finish`: Everything that is still owned is dropped.
-/

namespace DashKit

/-- Slots and scopes with their listeners, and the releases so far. -/
structure Registry where
  slots : List (Option Listener) := []
  scopes : List (Option ListenerScope) := []
  log : List Release := []
  deriving Repr

/-- An operation on listeners. -/
inductive Act
  /-- A new listener, which takes over the listeners of some slots. -/
  | acquire (label : String) (holds : List Nat)
  /-- A listener is given back by name. -/
  | release (slot : Nat)
  /-- A listener's owner is gone. -/
  | drop (slot : Nat)
  /-- A new scope. -/
  | openScope
  /-- A listener moves into a scope. -/
  | push (scope slot : Nat)
  /-- A listener moves into a scope, if there is one to move. -/
  | pushSome (scope : Nat) (slot : Option Nat)
  /-- A scope gives its listeners back. -/
  | releaseAll (scope : Nat)
  /-- A scope's owner is gone. -/
  | dropScope (scope : Nat)
  deriving DecidableEq, Repr

/-- What an operation answers. -/
inductive Answer
  /-- The place of what is new. -/
  | place (index : Nat)
  /-- Whether there was something to work on. -/
  | found (value : Bool)
  | nothing
  /-- The scope is gone. -/
  | gone
  deriving DecidableEq, Repr

namespace Registry

/-- The listener in a slot. -/
def listener? (registry : Registry) (slot : Nat) : Option Listener :=
  registry.slots[slot]?.join

/-- The listeners of a scope. -/
def scope? (registry : Registry) (scope : Nat) : Option ListenerScope :=
  registry.scopes[scope]?.join

/-- The listeners of some slots in order, and the slots without them. A slot
    that is named again is empty by then. -/
def takeAll (slots : List (Option Listener)) : List Nat → List Listener × List (Option Listener)
  | [] => ([], slots)
  | slot :: others =>
      -- The slot is emptied first, so naming it twice takes nothing twice.
      let (listeners, left) := takeAll (slots.set slot none) others
      (slots[slot]?.join.toList ++ listeners, left)

/-- A listener is given back one way or the other. -/
def giveBack (registry : Registry) (slot : Nat) (reports : Listener → List Release) :
    Answer × Registry :=
  match registry.listener? slot with
  | none => (.found false, registry)
  | some listener =>
      (.found true,
        { registry with
          slots := registry.slots.set slot none
          log := registry.log ++ reports listener })

/-- A listener moves from its slot into a scope. -/
def move (registry : Registry) (place : Nat) (scope : ListenerScope) (slot : Nat)
    (listener : Listener) : Registry :=
  { registry with
    slots := registry.slots.set slot none
    scopes := registry.scopes.set place (some (scope ++ [listener])) }

/-- One operation. -/
def step (act : Act) (registry : Registry) : Answer × Registry :=
  match act with
  | .acquire label holds =>
      let serial := registry.slots.length
      let (held, slots) := takeAll registry.slots holds
      (.place serial, { registry with slots := slots ++ [some (.mk serial label (some held))] })
  | .release slot => registry.giveBack slot Listener.release
  | .drop slot => registry.giveBack slot Listener.drop
  | .openScope =>
      (.place registry.scopes.length, { registry with scopes := registry.scopes ++ [some []] })
  | .push place slot =>
      match registry.scope? place with
      | none => (.gone, registry)
      | some scope =>
          match registry.listener? slot with
          | none => (.found false, registry)
          | some listener => (.found true, registry.move place scope slot listener)
  | .pushSome place slot =>
      match registry.scope? place with
      | none => (.gone, registry)
      | some scope =>
          match slot, slot.bind registry.listener? with
          | some slot, some listener => (.nothing, registry.move place scope slot listener)
          | _, _ => (.nothing, registry)
  | .releaseAll place =>
      match registry.scope? place with
      | none => (.gone, registry)
      | some scope =>
          (.nothing,
            { registry with
              scopes := registry.scopes.set place (some [])
              log := registry.log ++ scope.releaseAll })
  | .dropScope place =>
      match registry.scope? place with
      | none => (.found false, registry)
      | some scope =>
          (.found true,
            { registry with
              scopes := registry.scopes.set place none
              log := registry.log ++ scope.releaseAll })

/-- The releases when all that is still owned is dropped: the scopes in their
    order, and then the slots. -/
def finish (registry : Registry) : List Release :=
  registry.scopes.flatMap (fun scope => (scope.getD []).releaseAll)
    ++ registry.slots.flatMap fun slot => (slot.map Listener.drop).getD []

end Registry

end DashKit
