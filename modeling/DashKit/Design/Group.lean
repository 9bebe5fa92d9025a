import DashKit.Design.Basic

/-!
# Designs Sharing a Host

Several sets of preferences under one host, whose flag may switch at any time.

A set starts from the options of its provider, or as a copy of another one. It
is changed on its own from then on, so a copy has nothing to do with its source
afterwards; only the host is common to all.

## Main definitions

* `Designs`: Sets of preferences, and the flag of their host.
* `Designs.Move`: A new set, a choice in one of them, a copy, or a switch of the
  host.
* `Designs.step`: One move.
-/

namespace DashKit

/-- Sets of preferences under one host. -/
structure Designs where
  sets : List Preferences
  prefersDark : Bool
  deriving DecidableEq, Repr

namespace Designs

/-- What can happen to designs under one host. -/
inductive Move
  /-- A new set, from the options of a provider. -/
  | build (options : ProviderOptions)
  /-- A person sets an axis. -/
  | choose (place : Nat) (choice : Choice)
  /-- A set is copied. -/
  | copy (place : Nat)
  /-- The host switches. -/
  | switch (dark : Bool)
  deriving DecidableEq, Repr

/-- One move. A choice answers with whether it changed anything. -/
def step (move : Move) (designs : Designs) : Option Bool × Designs :=
  match move with
  | .build options =>
      (none, { designs with sets := designs.sets ++ [options.preferences] })
  | .choose place choice =>
      match designs.sets[place]? with
      | none => (none, designs)
      | some p =>
          let (changed, after) := p.choose choice
          (some changed, { designs with sets := designs.sets.set place after })
  | .copy place =>
      match designs.sets[place]? with
      | none => (none, designs)
      | some p => (none, { designs with sets := designs.sets ++ [p] })
  | .switch dark => (none, { designs with prefersDark := dark })

end Designs

end DashKit
