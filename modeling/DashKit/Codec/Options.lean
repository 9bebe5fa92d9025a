import DashKit.Codec.Basic
import DashKit.Options

/-!
# Preferences and Options in JSON

The JSON forms of the axes, of a full set of preferences, and of what the two
providers start from.

A member of an axis is its word, spelled exactly. A full set of preferences
needs all three fields. Options need none: what is missing keeps its default,
and a preference may also be given as `null`.

## Main definitions

* Codecs of `Theme`, `Scheme`, `Density`, `Radius`, `Preferences`,
  `ProviderOptions`, `Shortcut` and `SidebarOptions`.
* `ProviderOptions.ofJson`: Options from a text, with a fault of their own.
-/

namespace DashKit

open Json

/-- The codec of an axis: its members by their words. -/
abbrev Axis.codec {α : Type} [Axis α] : Codec α :=
  .words members word

instance : Codec Theme := Axis.codec

instance : Codec Density := Axis.codec

instance : Codec Radius := Axis.codec

instance : Codec Scheme := .words [.light, .dark] Scheme.word

/-- The preferences read so far. -/
structure PreferencesDraft where
  theme : Option Theme := none
  density : Option Density := none
  radius : Option Radius := none

/-- The preferences of a draft that has all of them. -/
def PreferencesDraft.finish (draft : PreferencesDraft) : Except String Preferences := do
  let theme ← required "theme" draft.theme
  let density ← required "density" draft.density
  let radius ← required "radius" draft.radius
  return { theme, density, radius }

/-- A record of three preferences, none of which may be missing. -/
def preferencesShape : Shape PreferencesDraft Preferences where
  name := "ThemePreferences"
  fields depth :=
    [.of depth "theme" fun v draft => { draft with theme := some v },
     .of depth "density" fun v draft => { draft with density := some v },
     .of depth "radius" fun v draft => { draft with radius := some v }]
  blank := {}
  finish := PreferencesDraft.finish

instance : Codec Preferences where
  reader depth := .shape depth preferencesShape
  value p :=
    .record
      [("theme", Codec.value p.theme), ("density", Codec.value p.density),
       ("radius", Codec.value p.radius)]

/-- A record of up to three preferences. -/
def providerShape : Shape ProviderOptions ProviderOptions where
  name := "ProviderOptions"
  fields depth :=
    [.of depth "defaultTheme" fun v options => { options with theme := v },
     .of depth "defaultDensity" fun v options => { options with density := v },
     .of depth "defaultRadius" fun v options => { options with radius := v }]
  blank := {}
  finish := .ok

instance : Codec ProviderOptions where
  reader depth := .shape depth providerShape
  value options :=
    .record
      [("defaultTheme", Codec.value options.theme),
       ("defaultDensity", Codec.value options.density),
       ("defaultRadius", Codec.value options.radius)]

/-- The options that a text stands for. A text that is refused is a fault of
    the options as a whole. -/
def ProviderOptions.ofJson (text : String) : Except Fault ProviderOptions :=
  match decode ProviderOptions text with
  | .error refusal => .error (.invalidPreference "options" refusal.message)
  | .ok options => .ok options

/-- A record of one key. -/
def shortcutShape : Shape (Option Char) Shortcut where
  name := "Shortcut"
  fields depth := [.of depth "key" fun v _ => some v]
  blank := none
  finish draft := (required "key" draft).map fun key => { key }

instance : Codec Shortcut where
  reader depth := .shape depth shortcutShape
  value shortcut := .record [("key", Codec.value shortcut.key)]

/-- A record of up to four settings. -/
def sidebarShape : Shape SidebarOptions SidebarOptions where
  name := "SidebarOptions"
  fields depth :=
    [.of depth "defaultOpen" fun v options => { options with startsOpen := v },
     .of depth "mobileBreakpointPx" fun v options => { options with breakpoint := v },
     .of depth "shortcut" fun v options => { options with shortcut := v },
     .of depth "shortcutEnabled" fun v options => { options with shortcutEnabled := v }]
  blank := {}
  finish := .ok

instance : Codec SidebarOptions where
  reader depth := .shape depth sidebarShape
  value options :=
    .record
      [("defaultOpen", Codec.value options.startsOpen),
       ("mobileBreakpointPx", Codec.value options.breakpoint),
       ("shortcut", Codec.value options.shortcut),
       ("shortcutEnabled", Codec.value options.shortcutEnabled)]

end DashKit
