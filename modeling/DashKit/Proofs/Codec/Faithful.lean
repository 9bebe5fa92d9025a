import DashKit.Codec.Chart
import DashKit.Codec.Options
import DashKit.Codec.Sidebar
import DashKit.Proofs.Codec.Exact

/-!
# The Codecs of the Kit Are Faithful

Every type of the kit that has a JSON form has an exact codec.

The types are gone through from the plain ones up, and each is exact for the
brackets its parts need and one more. Words are told apart by what their type
says of them already. A record needs its fields in the order they are written,
and that is all there is to show about it. A color has no shape of its own: its
text is read as the tree it was written from, and that tree has the shape of
the color and of no other.

## Theorems

* `exact_axis`: Words.
* `exact_preferences`, `exact_provider`, `exact_sidebar`, `exact_snapshot`:
  Records of plain values and of other records.
* `exact_color`, `exact_series`, `exact_chart`: Charts.
* `codecs_faithful`: All of these are faithful.
-/

namespace DashKit

open Json

theorem exact_axis {α : Type} [Axis α] : @Exact α Axis.codec 0 :=
  exact_words Axis.complete fun _ _ => Axis.word_injective

theorem exact_scheme : Exact Scheme 0 :=
  exact_words (by intro a; cases a <;> decide) (by intro a b; cases a <;> cases b <;> decide)

theorem exact_appearance : Exact Appearance 0 :=
  exact_words (by intro a; cases a <;> decide) (by intro a b; cases a <;> cases b <;> decide)

theorem exact_theme : Exact Theme 0 := exact_axis

theorem exact_density : Exact Density 0 := exact_axis

theorem exact_radius : Exact Radius 0 := exact_axis

theorem exact_preferences : Exact Preferences 1 := by
  -- A draft with every field given finishes as the preferences themselves.
  refine exact_shape (fun p => ⟨some p.theme, some p.density, some p.radius⟩)
    ?_ ?_ ?_ (fun p => rfl)
  · intro depth
    show ["theme", "density", "radius"].Nodup
    decide
  · intro depth
    simp only [preferencesShape, List.forall_mem_cons]
    exact ⟨Reader.map_local (exact_theme.isSealed depth).isLocal _,
      Reader.map_local (exact_density.isSealed depth).isLocal _,
      Reader.map_local (exact_radius.isSealed depth).isLocal _, List.forall_mem_nil _⟩
  · intro depth _ p
    exact .cons ((exact_theme.reads depth (Nat.zero_le _) p.theme).map _)
      (.cons ((exact_density.reads depth (Nat.zero_le _) p.density).map _)
        (.cons ((exact_radius.reads depth (Nat.zero_le _) p.radius).map _) (.nil _)))

theorem exact_provider : Exact ProviderOptions 1 := by
  -- Options are their own drafts, since every field may be missing.
  refine exact_shape (fun options => options) ?_ ?_ ?_ (fun options => rfl)
  · intro depth
    show ["defaultTheme", "defaultDensity", "defaultRadius"].Nodup
    decide
  · intro depth
    simp only [providerShape, List.forall_mem_cons]
    exact ⟨Reader.map_local (exact_theme.option_local depth) _,
      Reader.map_local (exact_density.option_local depth) _,
      Reader.map_local (exact_radius.option_local depth) _, List.forall_mem_nil _⟩
  · intro depth _ options
    exact .cons ((exact_theme.reads_option (Nat.zero_le _) options.theme).map _)
      (.cons ((exact_density.reads_option (Nat.zero_le _) options.density).map _)
        (.cons ((exact_radius.reads_option (Nat.zero_le _) options.radius).map _) (.nil _)))

theorem exact_shortcut : Exact Shortcut 1 := by
  refine exact_shape (fun shortcut => some shortcut.key) ?_ ?_ ?_ (fun shortcut => rfl)
  · intro depth
    show ["key"].Nodup
    decide
  · intro depth
    simp only [shortcutShape, List.forall_mem_cons]
    exact ⟨Reader.map_local Reader.char_sealed.isLocal _, List.forall_mem_nil _⟩
  · intro depth _ shortcut
    exact .cons ((reads_char shortcut.key).map _) (.nil _)

theorem exact_sidebar : Exact SidebarOptions 2 := by
  refine exact_shape (fun options => options) ?_ ?_ ?_ (fun options => rfl)
  · intro depth
    show ["defaultOpen", "mobileBreakpointPx", "shortcut", "shortcutEnabled"].Nodup
    decide
  · intro depth
    simp only [sidebarShape, List.forall_mem_cons]
    exact ⟨Reader.map_local Reader.truth_sealed.isLocal _,
      Reader.map_local Reader.word32_local _,
      Reader.map_local (exact_shortcut.isSealed depth).isLocal _,
      Reader.map_local Reader.truth_sealed.isLocal _, List.forall_mem_nil _⟩
  -- One field lies a level deeper, and the depth allows for it.
  · intro depth hd options
    exact .cons ((reads_truth options.startsOpen).map _)
      (.cons ((reads_word32 options.breakpoint).map _)
        (.cons ((exact_shortcut.reads depth hd options.shortcut).map _)
          (.cons ((reads_truth options.shortcutEnabled).map _) (.nil _))))

theorem exact_snapshot : Exact Snapshot 1 := by
  refine exact_shape
    (fun snapshot => ⟨some snapshot.isOpen, some snapshot.drawerOpen, some snapshot.isMobile⟩)
    ?_ ?_ ?_ (fun snapshot => rfl)
  · intro depth
    show ["open", "open_mobile", "is_mobile"].Nodup
    decide
  · intro depth
    simp only [snapshotShape, List.forall_mem_cons]
    exact ⟨Reader.map_local Reader.truth_sealed.isLocal _,
      Reader.map_local Reader.truth_sealed.isLocal _,
      Reader.map_local Reader.truth_sealed.isLocal _, List.forall_mem_nil _⟩
  · intro depth _ snapshot
    exact .cons ((reads_truth snapshot.isOpen).map _)
      (.cons ((reads_truth snapshot.drawerOpen).map _)
        (.cons ((reads_truth snapshot.isMobile).map _) (.nil _)))

/-- The tree that a color is written from has the shape of that color. -/
theorem ofValue_value (color : Color) : Color.ofValue (Codec.value color) = .ok color := by
  cases color with
  | fixed css => rfl
  | themed light dark => rfl

/-- A tree with the shape of a color is no number. -/
theorem isNumber_of_ofValue {v : Value} {color : Color} (h : Color.ofValue v = .ok color) :
    v.isNumber = false := by
  cases v with
  | number n => simp only [Color.ofValue, reduceCtorEq] at h
  | _ => rfl

theorem exact_color : Exact Color 1 where
  reads depth hd color := by
    intro t ht
    -- The tree is read back as it was written, and then taken for the color.
    have hread : (Value.reader depth).run ((Codec.value color).write ++ t) =
        .ok (Codec.value color, t) := by
      cases color with
      | fixed css => exact Value.reads_text depth css t ht
      | themed light dark =>
          cases depth with
          | zero => exact absurd hd (by decide)
          | succ depth =>
              refine Value.reads_record ?_ t ht
              simp only [List.forall_mem_cons]
              exact ⟨Value.reads_text depth light, Value.reads_text depth dark,
                List.forall_mem_nil _⟩
    simp only [Codec.reader, Reader.sift, hread, ofValue_value]
  isSealed depth := by
    intro s color rest t h
    simp only [Codec.reader, Reader.sift] at h ⊢
    cases hr : (Value.reader depth).run s with
    | error e => simp only [hr, reduceCtorEq] at h
    | ok found =>
        simp only [hr] at h
        cases hv : Color.ofValue found.1 with
        | error cause => simp only [hv, reduceCtorEq] at h
        | ok b =>
            simp only [hv, Except.ok.injEq, Prod.mk.injEq] at h
            -- A color is no number, so what follows its tree does not matter.
            rw [Value.reader_append hr (Or.inl (isNumber_of_ofValue hv))]
            simp only [hv, h.1, h.2]
  skips depth := skips_sift (skips_value depth) _
  opened color := by
    cases color with
    | fixed css => exact opened_writeText css.toList
    | themed light dark => exact ⟨'\x7b', _, rfl, Or.inr (Or.inr rfl)⟩

theorem exact_series : Exact Series 2 := by
  refine exact_shape (fun series => ⟨some series.label, series.color⟩) ?_ ?_ ?_ (fun series => rfl)
  · intro depth
    show ["label", "color"].Nodup
    decide
  · intro depth
    simp only [seriesShape, List.forall_mem_cons]
    exact ⟨Reader.map_local (exact_string.isSealed depth).isLocal _,
      Reader.map_local (exact_color.option_local depth) _, List.forall_mem_nil _⟩
  · intro depth hd series
    exact .cons ((reads_text series.label).map _)
      (.cons ((exact_color.reads_option hd series.color).map _) (.nil _))

theorem exact_entries : Exact (List (String × Series)) 4 :=
  ((exact_string.mono (by decide)).pair exact_series).list

theorem exact_chart : Exact ChartConfig 5 := by
  refine exact_shape (fun config => some config.series) ?_ ?_ ?_ (fun config => rfl)
  · intro depth
    show ["series"].Nodup
    decide
  · intro depth
    simp only [chartShape, List.forall_mem_cons]
    exact ⟨Reader.map_local (exact_entries.isSealed depth).isLocal _, List.forall_mem_nil _⟩
  · intro depth hd config
    exact .cons ((exact_entries.reads depth hd config.series).map _) (.nil _)

/-- For every type of the kit with a JSON form, the text of a value stands for
    that value, also with gaps around it, and for none if anything is cut off
    its end or anything but a gap is added there. -/
theorem codecs_faithful :
    Faithful Theme ∧ Faithful Scheme ∧ Faithful Density ∧ Faithful Radius ∧
      Faithful Preferences ∧ Faithful ProviderOptions ∧ Faithful SidebarOptions ∧
      Faithful Shortcut ∧ Faithful Appearance ∧ Faithful Snapshot ∧ Faithful Color ∧
      Faithful Series ∧ Faithful ChartConfig :=
  ⟨exact_theme.faithful (by decide), exact_scheme.faithful (by decide),
    exact_density.faithful (by decide), exact_radius.faithful (by decide),
    exact_preferences.faithful (by decide), exact_provider.faithful (by decide),
    exact_sidebar.faithful (by decide), exact_shortcut.faithful (by decide),
    exact_appearance.faithful (by decide), exact_snapshot.faithful (by decide),
    exact_color.faithful (by decide), exact_series.faithful (by decide),
    exact_chart.faithful (by decide)⟩

end DashKit
