import DashKit.Preference.Axis
import DashKit.Shortcut

/-!
# Provider Options

What a provider starts from.

Each preference is set or left out on its own; what is left out takes its
axis's default. Besides being built in code, the options can be gathered
through a lookup from names to texts, such as the process environment. The
lookup is consulted in a fixed order and no further than the first text that
names no member, and `gather` keeps a record of the names it asked for, so
that both can be stated.

## Main definitions

* `ProviderOptions`: One optional member per axis.
* `ProviderOptions.preferences`: The members with the gaps filled.
* `ProviderOptions.gather`: The options from a lookup, and the names asked.
* `Environment`, `ProviderOptions.ofEnvironment`: The options from variables
  that hold bytes.
* `SidebarOptions`: What a sidebar starts from.
-/

namespace DashKit

/-- The preferences a provider starts from, as far as they were set. -/
structure ProviderOptions where
  theme : Option Theme := none
  density : Option Density := none
  radius : Option Radius := none
  deriving DecidableEq, Repr

instance : Inhabited ProviderOptions := ⟨{}⟩

/-- Text under a name, for the names that are set. -/
abbrev Lookup := String → Option String

/-- A computation that consults a lookup: it may fail, and it leaves the names
    that were asked for, in order. -/
abbrev Gathering := ExceptT Fault (StateM (List String))

/-- The member under a name, if the name is set. -/
def Lookup.axis (lookup : Lookup) (name : String) {α : Type} [Axis α] : Gathering (Option α) := do
  modify (· ++ [name])
  match lookup name with
  | none => return none
  | some raw => return some (← ExceptT.mk (pure (Axis.read raw)))

namespace ProviderOptions

/-- The names that hold the three defaults, in the order they are asked for. -/
def themeName : String := "DESIGN_SYSTEM_DEFAULT_THEME"

@[inherit_doc themeName]
def densityName : String := "DESIGN_SYSTEM_DEFAULT_DENSITY"

@[inherit_doc themeName]
def radiusName : String := "DESIGN_SYSTEM_DEFAULT_RADIUS"

/-- The preferences with the default member of each axis that was left out. -/
def preferences (options : ProviderOptions) : Preferences where
  theme := options.theme.getD default
  density := options.density.getD default
  radius := options.radius.getD default

/-- The options under their three names. -/
def gather (lookup : Lookup) : Gathering ProviderOptions := do
  let theme ← lookup.axis themeName
  let density ← lookup.axis densityName
  let radius ← lookup.axis radiusName
  return { theme, density, radius }

/-- The options under their three names, with the names that were asked for. -/
def ofLookup (lookup : Lookup) : Except Fault ProviderOptions × List String :=
  (gather lookup).run.run []

end ProviderOptions

/-- Variables of a process: bytes under a name, for the names that are set. -/
abbrev Environment := String → Option ByteArray

/-- The text of a variable. Bytes that are no text count as not set. -/
def Environment.lookup (environment : Environment) : Lookup :=
  fun name => environment name >>= String.fromUTF8?

/-- The options that the variables of a process set. -/
def ProviderOptions.ofEnvironment (environment : Environment) : Except Fault ProviderOptions :=
  (ofLookup environment.lookup).1

/-- What a sidebar starts from. -/
structure SidebarOptions where
  /-- The desktop flag used when none is stored. -/
  startsOpen : Bool := true
  /-- The sidebar is mobile strictly below this width. -/
  breakpoint : UInt32 := 768
  shortcut : Shortcut := {}
  /-- Off for a sidebar nested inside another, so one chord toggles one. -/
  shortcutEnabled : Bool := true
  deriving DecidableEq, Repr

instance : Inhabited SidebarOptions := ⟨{}⟩

/-- The diagnostic form of the options. -/
def SidebarOptions.describe (options : SidebarOptions) : String :=
  "SidebarOptions \x7b default_open: " ++ toString options.startsOpen
    ++ ", mobile_breakpoint_px: " ++ toString options.breakpoint.toNat
    ++ ", shortcut: " ++ options.shortcut.describe
    ++ ", shortcut_enabled: " ++ toString options.shortcutEnabled ++ " \x7d"

end DashKit
