import DashKit.Proofs.Chart.Cascade
import Mathlib.Data.List.Basic

/-!
# Style Blocks by the Line

How much of a chart its style block tells.

A document cuts a style block at braces and semicolons, and a color that holds one
of these ends its declaration early. The text itself is clearer than that. It was
written line by line, so a reader who goes by the line ends sees every
declaration whole, whatever quotes, braces or further rules its color contains.
Such a reader only needs that no text brings in a line end, and that a key has no
colon, because the first colon on a line is where the key stops.

Two blocks hold the same number of declarations, so the number of lines already
says how many there are. Nothing has to be recognised as the end of a block, and a
color may well look like one.

What the text does not tell is left out of `palette`: labels, series without a
color, and whether one color was given for both schemes or the same one twice.

## Main definitions

* `StyleSheet.heading`, `StyleSheet.line`: The lines that a block is made of.
* `StyleSheet.Legible`: A key and a color that leave a declaration on its line.
* `StyleSheet.shaded`: A key with its color under a scheme.
* `ChartConfig.palette`: The keys with the colors under both schemes, in order.
* `ChartConfig.Legible`: There is a color, and all that is written is legible.

## Theorems

* `StyleSheet.fields_styleBlock`: The lines of a block.
* `StyleSheet.map_shaded_of_map_line`: A line tells its key and its color.
* `ChartConfig.palette_eq_iff`: Palettes are equal scheme by scheme.
* `ChartConfig.style?_eq_iff`: Style blocks are equal exactly if identifiers and
  palettes are.
-/

namespace DashKit

namespace StyleSheet

open Text (fields splitFirst)

/-- The line that opens a block. -/
def heading (id : String) (scheme : Scheme) : List Char :=
  (schemeSelector scheme).toList ++ chartSelector id ++ [' ', '\x7b']

/-- The line of a declaration. -/
def line (scheme : Scheme) (entry : String × Color) : List Char :=
  ' ' :: ' ' :: (declarationText scheme entry ++ [';'])

/-- A key and a color that leave a declaration on its line and in one piece. -/
structure Legible (entry : String × Color) : Prop where
  colon : ':' ∉ entry.1.toList
  key : '\n' ∉ entry.1.toList
  color : ∀ scheme, '\n' ∉ (entry.2.shade scheme).toList

instance (entry : String × Color) : Decidable (Legible entry) :=
  decidable_of_iff (':' ∉ entry.1.toList ∧ '\n' ∉ entry.1.toList ∧
      ∀ scheme, '\n' ∉ (entry.2.shade scheme).toList)
    ⟨fun ⟨hcolon, hkey, hcolor⟩ => ⟨hcolon, hkey, hcolor⟩, fun h => ⟨h.colon, h.key, h.color⟩⟩

/-- A key with its color under a scheme. -/
def shaded (scheme : Scheme) (entry : String × Color) : String × String :=
  (entry.1, entry.2.shade scheme)

theorem newline_notMem_heading {id : String} (h : '\n' ∉ id.toList) (scheme : Scheme) :
    '\n' ∉ heading id scheme := by
  have hselector : '\n' ∉ (schemeSelector scheme).toList := by
    cases scheme <;> decide
  simp [heading, chartSelector, hselector, h]

theorem newline_notMem_line {entry : String × Color} (h : Legible entry) (scheme : Scheme) :
    '\n' ∉ line scheme entry := by
  simp [line, declarationText, colorProperty, h.key, h.color scheme]

/-- The lines of a body and of the brace behind it. -/
theorem fields_body {scheme : Scheme} {colored : List (String × Color)}
    (h : ∀ entry ∈ colored, Legible entry) :
    fields '\n' (colored.flatMap (declaration scheme) ++ ['\x7d']) =
      colored.map (line scheme) ++ [['\x7d']] := by
  induction colored with
  | nil => rfl
  | cons entry colored ih =>
      have hline := newline_notMem_line (h entry List.mem_cons_self) scheme
      have hrest := ih fun other hother => h other (List.mem_cons_of_mem entry hother)
      -- The first declaration is a line of its own, and the others follow behind its end.
      have hbody : (entry :: colored).flatMap (declaration scheme) ++ ['\x7d'] =
          line scheme entry ++ '\n' :: (colored.flatMap (declaration scheme) ++ ['\x7d']) := by
        rw [List.flatMap_cons, declaration_eq]
        simp only [line, List.cons_append, List.append_assoc, List.nil_append]
      rw [hbody, Text.fields_append, Text.fields_eq_singleton hline, hrest]
      rfl

/-- The lines of a block. -/
theorem fields_styleBlock {id : String} (hid : '\n' ∉ id.toList) (scheme : Scheme)
    {colored : List (String × Color)} (h : ∀ entry ∈ colored, Legible entry) :
    fields '\n' (styleBlock id colored scheme) =
      heading id scheme :: (colored.map (line scheme) ++ [['\x7d']]) := by
  have htext : styleBlock id colored scheme = heading id scheme ++
      '\n' :: (colored.flatMap (declaration scheme) ++ ['\x7d']) := by
    rw [styleBlock_eq]
    simp only [openBlock, heading, List.append_assoc, List.cons_append, List.nil_append]
  rw [htext, Text.fields_append, fields_body h,
    Text.fields_eq_singleton (newline_notMem_heading hid scheme)]
  rfl

theorem heading_inj {id other : String} {scheme : Scheme} :
    heading id scheme = heading other scheme ↔ id = other := by
  simp [heading, chartSelector, String.toList_inj]

/-- What stands before and after the first colon of a line. -/
def lineParts (pair : String × String) : List Char × List Char :=
  (' ' :: ' ' :: (colorProperty pair.1).toList, ' ' :: (pair.2.toList ++ [';']))

theorem lineParts_injective : Function.Injective lineParts := by
  rintro ⟨key, value⟩ ⟨key', value'⟩ h
  simpa [lineParts, String.toList_inj, colorProperty_inj] using h

/-- The first colon of a line stands behind the key. -/
theorem splitFirst_line {entry : String × Color} (h : Legible entry) (scheme : Scheme) :
    splitFirst ':' (line scheme entry) = some (lineParts (shaded scheme entry)) := by
  refine Text.splitFirst_eq_some.mpr ⟨?_, ?_⟩
  · simp only [line, declarationText, shaded, List.cons_append, List.append_assoc]
  · simp [shaded, colorProperty, h.colon]

/-- Lines tell the keys and the colors. -/
theorem map_shaded_of_map_line {scheme : Scheme} {colored others : List (String × Color)}
    (h : ∀ entry ∈ colored, Legible entry) (ho : ∀ entry ∈ others, Legible entry)
    (heq : colored.map (line scheme) = others.map (line scheme)) :
    colored.map (shaded scheme) = others.map (shaded scheme) := by
  -- Cutting at the first colon undoes the writing of legible lines.
  have hread : ∀ entries : List (String × Color), (∀ entry ∈ entries, Legible entry) →
      (entries.map (shaded scheme)).map (some ∘ lineParts) =
        (entries.map (line scheme)).map (splitFirst ':') := by
    intro entries hentries
    rw [List.map_map, List.map_map]
    exact List.map_congr_left fun entry hentry =>
      (splitFirst_line (hentries entry hentry) scheme).symm
  have hinj : Function.Injective (some ∘ lineParts) :=
    fun _ _ hparts => lineParts_injective (Option.some_inj.mp hparts)
  refine List.map_injective_iff.mpr hinj ?_
  rw [hread colored h, hread others ho, heq]

/-- A block depends on the keys and on the colors under its scheme. -/
theorem styleBlock_congr {scheme : Scheme} {colored others : List (String × Color)}
    (heq : colored.map (shaded scheme) = others.map (shaded scheme)) (id : String) :
    styleBlock id colored scheme = styleBlock id others scheme := by
  -- Of an entry only the key and its color under the scheme are written.
  have hbody : ∀ entries : List (String × Color), entries.flatMap (declaration scheme) =
      (entries.map (shaded scheme)).flatMap fun pair =>
        declaration scheme (pair.1, .fixed pair.2) := by
    intro entries
    rw [List.flatMap_map]
    rfl
  rw [styleBlock, styleBlock, hbody, hbody, heq]

end StyleSheet

namespace ChartConfig

open StyleSheet

/-- The keys of the series with a color, in order and with the colors under both
    schemes. -/
def palette (config : ChartConfig) : List (String × String × String) :=
  config.colored.map fun entry => (entry.1, entry.2.shade .light, entry.2.shade .dark)

/-- A series has a color, and all keys and colors that are written are legible. -/
structure Legible (config : ChartConfig) : Prop where
  colored : config.colored ≠ []
  entries : ∀ entry ∈ config.colored, StyleSheet.Legible entry

/-- Palettes are equal scheme by scheme. -/
theorem palette_eq_iff {config other : ChartConfig} :
    config.palette = other.palette ↔
      ∀ scheme, config.colored.map (shaded scheme) = other.colored.map (shaded scheme) := by
  constructor
  · intro h scheme
    -- A palette has the colors of both schemes, so one scheme is read off it.
    have hpick : ∀ config : ChartConfig, config.colored.map (shaded scheme) =
        config.palette.map fun row => (row.1, (Color.themed row.2.1 row.2.2).shade scheme) := by
      intro config
      rw [palette, List.map_map]
      cases scheme <;> rfl
    rw [hpick, hpick, h]
  · intro h
    -- And two lists with the same keys are put together to a palette.
    have hzip : ∀ config : ChartConfig, config.palette =
        List.zipWith (fun light dark => (light.1, light.2, dark.2))
          (config.colored.map (shaded .light)) (config.colored.map (shaded .dark)) := by
      intro config
      rw [List.zipWith_map, List.zipWith_self]
      rfl
    rw [hzip, hzip, h, h]

/-- The style blocks of two charts are the same text exactly if the identifiers
    and the palettes are the same. -/
theorem style?_eq_iff {config other : ChartConfig} {id otherId : String}
    (hid : '\n' ∉ id.toList) (hotherId : '\n' ∉ otherId.toList)
    (hconfig : config.Legible) (hother : other.Legible) :
    config.style? id = other.style? otherId ↔ id = otherId ∧ config.palette = other.palette := by
  rw [style?_of_colored hconfig.colored, style?_of_colored hother.colored, Option.some_inj,
    String.ofList_inj]
  constructor
  · intro htext
    have hlines := congrArg (Text.fields '\n') htext
    simp only [Text.fields_append, fields_styleBlock hid _ hconfig.entries,
      fields_styleBlock hotherId _ hother.entries] at hlines
    -- Both blocks of a chart have a line for every color.
    have hlength : config.colored.length = other.colored.length := by
      have htotal := congrArg List.length hlines
      simp only [List.length_append, List.length_cons, List.length_map, List.length_nil] at htotal
      omega
    rcases List.append_inj hlines (by simp [hlength]) with ⟨hlight, hdark⟩
    rcases List.cons.inj hlight with ⟨hheading, hlight⟩
    -- The headings tell the identifiers, and each block the colors of its scheme.
    have hdark := (List.cons.inj hdark).2
    refine ⟨heading_inj.mp hheading, palette_eq_iff.mpr ?_⟩
    intro scheme
    refine map_shaded_of_map_line hconfig.entries hother.entries ?_
    cases scheme with
    | light => exact List.append_cancel_right hlight
    | dark => exact List.append_cancel_right hdark
  · rintro ⟨rfl, hpalette⟩
    have hshaded := palette_eq_iff.mp hpalette
    rw [styleBlock_congr (hshaded .light), styleBlock_congr (hshaded .dark)]

/-- A color that looks like the end of its block and the start of another one. It
    makes no difference whether it was given once or twice, and labels make none,
    but the color under the dark scheme does. -/
theorem style?_eq_iff_disguised :
    let color := "red;\x7d [b] \x7b --c: \"x"
    let config : ChartConfig := ⟨[("a b", ⟨"A", some (.fixed color)⟩), ("c", ⟨"C", none⟩)]⟩
    let twice : ChartConfig := ⟨[("a b", ⟨"B", some (.themed color color)⟩)]⟩
    let themed : ChartConfig := ⟨[("a b", ⟨"A", some (.themed color "blue")⟩)]⟩
    config.Legible ∧ twice.Legible ∧ themed.Legible ∧
      config.style? "q\"3" = twice.style? "q\"3" ∧
      config.style? "q\"3" ≠ themed.style? "q\"3" ∧
      config.style? "q\"3" ≠ config.style? "q" := by
  intro color config twice themed
  have hconfig : config.Legible := ⟨by decide, by decide⟩
  have htwice : twice.Legible := ⟨by decide, by decide⟩
  have hthemed : themed.Legible := ⟨by decide, by decide⟩
  refine ⟨hconfig, htwice, hthemed,
    (style?_eq_iff (by decide) (by decide) hconfig htwice).mpr ⟨rfl, by decide⟩,
    fun h => ?_, fun h => ?_⟩
  · have hpalette := ((style?_eq_iff (by decide) (by decide) hconfig hthemed).mp h).2
    exact absurd hpalette (by decide)
  · have hid := ((style?_eq_iff (by decide) (by decide) hconfig hconfig).mp h).1
    exact absurd hid (by decide)

end ChartConfig

end DashKit
