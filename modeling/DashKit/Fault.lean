import DashKit.Text.Quoted

/-!
# Faults

The two ways an integration of the kit can go wrong.

A page may ask for a provider that none of its ancestors set up, and a
setting may name something that is no member of its axis. Nothing else is a
fault: stored text that makes no sense is expected and falls back to a
default, so it has no constructor here.

## Main definitions

* `Fault`: The cause, with what is needed to name it.
* `Fault.message`: The sentence shown to a person.
* `Fault.describe`: The diagnostic form, with every field quoted.
-/

namespace DashKit

/-- Why a request to the kit was refused. -/
inductive Fault
  /-- No enclosing provider of this name. -/
  | missingProvider (provider : String)
  /-- The text, already trimmed, names no member of the axis. -/
  | invalidPreference (axis : String) (value : String)
  deriving DecidableEq, Repr

namespace Fault

/-- The sentence shown to a person. -/
def message : Fault → String
  | missingProvider provider =>
      provider ++ " accessor used outside of its provider"
  | invalidPreference axis value =>
      "invalid " ++ axis ++ " preference: '" ++ value ++ "'"

/-- The diagnostic form: the constructor with its fields quoted. -/
def describe : Fault → String
  | missingProvider provider =>
      "MissingProvider \x7b provider: " ++ Text.quoted provider ++ " \x7d"
  | invalidPreference axis value =>
      "InvalidPreference \x7b axis: " ++ Text.quoted axis
        ++ ", value: " ++ Text.quoted value ++ " \x7d"

end Fault

end DashKit
