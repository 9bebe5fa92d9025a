import DashKit.Text.Quoted

/-!
# Listeners

A registration with the host that has to be given back exactly once.

A provider registers for events of its window and has to deregister when it
goes away. Each registration is a `Listener`, and giving it back may be asked
for in so many words or may simply happen because its owner is gone. Either
way the same thing runs, once: the listener reports its release and then gives
back, in order, the listeners that were handed to it.

Giving a listener back by name consumes it, so what is left of it is dropped
right after. That drop must do nothing, and it does nothing because a listener
that was released is `spent`.

## Main definitions

* `Listener`: A registration with a serial number.
* `Release`: The report of a release.
* `Listener.drop`, `Listener.release`: The two ways to give it back.
* `releaseAll`: A scope gives all of its listeners back, the latest first.

## Theorems

* `Listener.release_eq_drop`: The two ways leave the same reports.
-/

namespace DashKit

/-- The report of a release. -/
structure Release where
  serial : Nat
  label : String
  deriving DecidableEq, Repr

/-- A registration with the host. As long as it is to be given back it has the
    listeners that go with it; a spent one has nothing. -/
inductive Listener
  | mk (serial : Nat) (label : String) (pending : Option (List Listener))
  deriving Repr

namespace Listener

/-- The number it was given when it was registered. -/
def serial : Listener → Nat
  | mk serial _ _ => serial

/-- What it listens to. -/
def label : Listener → String
  | mk _ label _ => label

/-- It is still to be given back. -/
def isActive : Listener → Bool
  | mk _ _ pending => pending.isSome

/-- What is left of a listener once it was released. -/
def spent : Listener → Listener
  | mk serial label _ => mk serial label none

mutual

/-- The reports when the owner of a listener is gone. -/
def drop : Listener → List Release
  | mk _ _ none => []
  | mk serial label (some held) => ⟨serial, label⟩ :: dropAll held

/-- The reports when the owner of several listeners is gone. -/
def dropAll : List Listener → List Release
  | [] => []
  | listener :: listeners => drop listener ++ dropAll listeners

end

/-- The reports when a listener is given back by name: what it held goes, and
    then what is left of it. -/
def release (listener : Listener) : List Release :=
  listener.drop ++ listener.spent.drop

/-- Nothing is reported for a spent listener. -/
theorem drop_spent (listener : Listener) : listener.spent.drop = [] := by
  cases listener
  rfl

/-- A listener given back by name reports what a dropped one does. -/
theorem release_eq_drop (listener : Listener) : listener.release = listener.drop := by
  rw [release, drop_spent, List.append_nil]

/-- The diagnostic form of a listener. -/
def describe (listener : Listener) : String :=
  "ScopedListener \x7b label: " ++ Text.quoted listener.label ++ ", active: "
    ++ toString listener.isActive ++ " \x7d"

end Listener

/-- The listeners of one provider, in the order they were registered. -/
abbrev ListenerScope := List Listener

namespace ListenerScope

/-- The reports when a scope gives its listeners back, the latest first. -/
def releaseAll (scope : ListenerScope) : List Release :=
  scope.reverse.flatMap Listener.release

/-- The diagnostic form of a scope. -/
def describe (scope : ListenerScope) : String :=
  "ListenerScope \x7b listeners: [" ++ ", ".intercalate (scope.map Listener.describe) ++ "] \x7d"

end ListenerScope

end DashKit
