import DashKit.Chart.Config
import DashKit.Text.Blank
import DashKit.Text.Fields

/-!
# Style Sheets Read Back

The text of a style block read as rules, the way a document reads it.

A configuration writes its colors as text and never looks at that text again.
Who does is the document: it cuts the text at braces into rules, the body of a
rule at semicolons into declarations, and takes what stands behind the colon
as it is written. `rules?` is that reading for the part of the language that
a style block uses, and it gives up on anything else.

A key or a color that holds one of the characters the reading cuts at would
end its declaration early, so the lemmas about what was written ask for
`Plain` texts. Nothing else is asked of them: blanks, quotes and brackets stay
where they are.

## Main definitions

* `Rule`: The attributes that a selector asks for, and the declarations.
* `StyleSheet.pieces`: What stands between separators, blanks passed over.
* `StyleSheet.rules?`: The rules of a text.
* `StyleSheet.Plain`: A text that a declaration can hold.

## Theorems

* `StyleSheet.selector?_style`: The selectors of a style block ask for the
  mark of the chart, and the dark one for that of the scheme as well.
* `StyleSheet.declarations?_body`: A body is the declarations it was made of.
* `StyleSheet.rules?_style`: A style block is one rule for each scheme.
-/

namespace DashKit

/-- A rule: the attributes its selector asks for, from the outer element to
    the inner, and its declarations in order. -/
structure Rule where
  selector : List (String × String)
  declarations : List (String × String)
  deriving DecidableEq, Repr

namespace StyleSheet

open Text (fields splitFirst isBlank trimStart)

/-- What stands between the occurrences of `sep`, without the blanks in front.
    A piece that is all blank is passed over. -/
def pieces (sep : Char) (text : List Char) : List (List Char) :=
  ((fields sep text).map trimStart).filter (· ≠ [])

/-- The value of an attribute up to the bracket, in quotes or as it is. -/
def attributeValue? : List Char → Option (List Char)
  | '"' :: quoted =>
      match splitFirst '"' quoted with
      | some (value, [']']) => some value
      | _ => none
  | text =>
      match splitFirst ']' text with
      | some (value, []) => some value
      | _ => none

/-- An attribute in brackets. -/
def attribute? : List Char → Option (String × String)
  | '[' :: inner => do
      let (name, text) ← splitFirst '=' inner
      let value ← attributeValue? text
      return (String.ofList name, String.ofList value)
  | _ => none

/-- The attributes of a selector, from the outer element to the inner. -/
def selector? (text : List Char) : Option (List (String × String)) :=
  (pieces ' ' text).mapM attribute?

/-- A property with its value, which is taken as it is written. -/
def declaration? (piece : List Char) : Option (String × String) :=
  match splitFirst ':' piece with
  | some (property, ' ' :: value) => some (String.ofList property, String.ofList value)
  | _ => none

/-- The declarations of a body. -/
def declarations? (body : List Char) : Option (List (String × String)) :=
  (pieces ';' body).mapM declaration?

/-- The rule that stands in front of a closing brace. -/
def rule? (piece : List Char) : Option Rule := do
  let (selector, body) ← splitFirst '\x7b' piece
  return ⟨← selector? selector, ← declarations? body⟩

/-- The rules of a text. -/
def rules? (text : List Char) : Option (List Rule) :=
  (pieces '\x7d' text).mapM rule?

/-- The characters that a reading cuts at, and the end of a line. -/
def cuts : List Char :=
  [':', ';', '\x7b', '\x7d', '\n']

/-- A text without such characters. -/
def Plain (text : String) : Prop :=
  ∀ c ∈ text.toList, c ∉ cuts

instance (text : String) : Decidable (Plain text) :=
  decidable_of_iff (text.toList.all fun c => !cuts.contains c) <| by
    simp only [Plain, List.contains_eq_mem, List.all_eq_true, Bool.not_eq_eq_eq_not,
      Bool.not_true, decide_eq_false_iff_not]

theorem Plain.not_mem {text : String} (h : Plain text) {c : Char} (hc : c ∈ cuts) :
    c ∉ text.toList :=
  fun hmem => h c hmem hc

theorem pieces_append (sep : Char) (s t : List Char) :
    pieces sep (s ++ sep :: t) = pieces sep s ++ pieces sep t := by
  rw [pieces, Text.fields_append, List.map_append, List.filter_append]
  rfl

/-- A text without the separator is one piece, and what is blank in front of
    it is put aside. -/
theorem pieces_eq_singleton {sep c : Char} {s : List Char} (blanks : List Char)
    (hblanks : (blanks.all fun b => isBlank b && b != sep) = true) (hc : isBlank c = false)
    (hsep : sep ∉ c :: s) : pieces sep (blanks ++ c :: s) = [c :: s] := by
  simp only [List.all_eq_true, Bool.and_eq_true, bne_iff_ne] at hblanks
  -- Cut at the separator it is one field, and trimming stops at the first character.
  have hfree : sep ∉ blanks ++ c :: s := by
    rw [List.mem_append, not_or]
    exact ⟨fun hmem => (hblanks sep hmem).2 rfl, hsep⟩
  have htrim : trimStart (blanks ++ c :: s) = c :: s := by
    rw [trimStart, List.dropWhile_append_of_pos fun b hb => (hblanks b hb).1,
      List.dropWhile_cons_of_neg (by rw [hc]; decide)]
  rw [pieces, Text.fields_eq_singleton hfree, List.map_singleton, htrim]
  rfl

/-! ### Selectors -/

/-- The attribute that marks the element of a chart. -/
def chartMark (id : String) : String × String :=
  ("data-chart", id)

/-- The marks that a block for a scheme asks for. -/
def marks (id : String) : Scheme → List (String × String)
  | .light => [chartMark id]
  | .dark => [("data-theme", "dark"), chartMark id]

/-- The part of a selector that the element of a chart answers to. -/
def chartSelector (id : String) : List Char :=
  '[' :: ("data-chart".toList ++ '=' :: '"' :: (id.toList ++ '"' :: [']']))

/-- An identifier holds only characters that are safe in quotes. -/
theorem isIdChar_of_mem_chartId {raw : String} {c : Char} (h : c ∈ (chartId raw).toList) :
    isIdChar c = true := by
  have hid : (chartId raw).toList = "chart-".toList ++ raw.toList.filter isIdChar :=
    String.toList_ofList
  rw [hid, List.mem_append] at h
  -- The word in front is safe, and the rest was filtered.
  rcases h with h | h
  · have hall : "chart-".toList.all isIdChar = true := by decide
    exact List.all_eq_true.mp hall c h
  · exact (List.mem_filter.mp h).2

theorem not_mem_chartId (raw : String) {c : Char} (hc : isIdChar c = false) :
    c ∉ (chartId raw).toList := by
  intro h
  rw [isIdChar_of_mem_chartId h] at hc
  exact Bool.noConfusion hc

theorem not_mem_chartSelector (raw : String) {c : Char} (hid : isIdChar c = false)
    (hc : c ∉ ['[', '=', '"', ']']) : c ∉ chartSelector (chartId raw) := by
  -- What may stand in an identifier may stand in the name of the attribute, and nothing
  -- else does.
  have hname : c ∉ "data-chart".toList := by
    have hall : "data-chart".toList.all isIdChar = true := by decide
    intro hmem
    rw [List.all_eq_true.mp hall c hmem] at hid
    exact Bool.noConfusion hid
  simp only [List.mem_cons, List.not_mem_nil, or_false, not_or] at hc
  simp only [chartSelector, List.mem_cons, List.mem_append, List.not_mem_nil, or_false, not_or]
  exact ⟨hc.1, hname, hc.2.1, hc.2.2.1, not_mem_chartId raw hid, hc.2.2⟩

theorem attribute?_chart (raw : String) :
    attribute? (chartSelector (chartId raw)) = some (chartMark (chartId raw)) := by
  -- The name ends at the first equals sign, and the value at the first quote.
  have hname : splitFirst '=' ("data-chart".toList ++ '=' :: '"' ::
      ((chartId raw).toList ++ '"' :: [']'])) =
        some ("data-chart".toList, '"' :: ((chartId raw).toList ++ '"' :: [']'])) :=
    Text.splitFirst_eq_some.mpr ⟨rfl, by decide⟩
  have hvalue : splitFirst '"' ((chartId raw).toList ++ '"' :: [']']) =
      some ((chartId raw).toList, [']']) :=
    Text.splitFirst_eq_some.mpr ⟨rfl, not_mem_chartId raw (by decide)⟩
  rw [chartSelector, attribute?, hname]
  simp only [Option.bind_eq_bind, Option.bind_some, attributeValue?, hvalue, chartMark,
    String.ofList_toList, Option.pure_def]

/-- The selectors of a style block ask for the mark of the chart, and the dark
    one for that of the scheme as well. -/
theorem selector?_style (raw : String) (scheme : Scheme) :
    selector? ((schemeSelector scheme).toList ++ chartSelector (chartId raw) ++ [' ']) =
      some (marks (chartId raw) scheme) := by
  -- The selector of the chart has no blank in it, so it is one piece.
  have hchart : pieces ' ' (chartSelector (chartId raw) ++ [' ']) =
      [chartSelector (chartId raw)] := by
    rw [pieces_append]
    exact congrArg (· ++ pieces ' ' []) (pieces_eq_singleton [] (by decide) (by decide)
      (not_mem_chartSelector raw (by decide) (by decide)))
  cases scheme with
  | light =>
      change (pieces ' ' (chartSelector (chartId raw) ++ [' '])).mapM attribute? = _
      rw [hchart, List.mapM_cons, attribute?_chart]
      rfl
  | dark =>
      change (pieces ' ' ("[data-theme=dark]".toList ++
        ' ' :: (chartSelector (chartId raw) ++ [' ']))).mapM attribute? = _
      rw [pieces_append, hchart, List.mapM_append, List.mapM_cons, attribute?_chart]
      rfl

/-! ### Bodies -/

/-- A declaration as it is read. -/
def declared (scheme : Scheme) (entry : String × Color) : String × String :=
  (colorProperty entry.1, entry.2.shade scheme)

/-- A declaration without the blanks around it. -/
def declarationText (scheme : Scheme) (entry : String × Color) : List Char :=
  (colorProperty entry.1).toList ++ ':' :: ' ' :: (entry.2.shade scheme).toList

theorem declaration_eq (scheme : Scheme) (entry : String × Color) :
    declaration scheme entry = ' ' :: ' ' :: (declarationText scheme entry ++ [';', '\n']) := by
  simp only [declaration, declarationText, List.append_assoc, List.cons_append]
  rfl

theorem toList_colorProperty (key : String) :
    (colorProperty key).toList = '-' :: '-' :: ("color-".toList ++ key.toList) := by
  rw [colorProperty, String.toList_append]
  rfl

theorem not_mem_colorProperty {key : String} (h : Plain key) {c : Char} (hc : c ∈ cuts) :
    c ∉ (colorProperty key).toList := by
  have hname : Plain "--color-" := by decide
  rw [colorProperty, String.toList_append, List.mem_append, not_or]
  exact ⟨hname.not_mem hc, h.not_mem hc⟩

/-- The characters that end a declaration, a body and a rule. -/
theorem not_mem_declarationText {scheme : Scheme} {entry : String × Color}
    (hkey : Plain entry.1) (hcolor : Plain (entry.2.shade scheme)) {c : Char} (hc : c ∈ cuts)
    (hcolon : c ≠ ':') : c ∉ declarationText scheme entry := by
  -- A blank ends nothing.
  have hblank : c ≠ ' ' := by
    rintro rfl
    exact absurd hc (by decide)
  simp only [declarationText, List.mem_append, List.mem_cons, not_or]
  exact ⟨not_mem_colorProperty hkey hc, hcolon, hblank, hcolor.not_mem hc⟩

theorem declaration?_text {scheme : Scheme} {entry : String × Color} (hkey : Plain entry.1) :
    declaration? (declarationText scheme entry) = some (declared scheme entry) := by
  -- The first colon is the one behind the property, as there is none in the key.
  have hsplit : splitFirst ':' (declarationText scheme entry) =
      some ((colorProperty entry.1).toList, ' ' :: (entry.2.shade scheme).toList) :=
    Text.splitFirst_eq_some.mpr ⟨rfl, not_mem_colorProperty hkey (by decide)⟩
  rw [declaration?, hsplit]
  simp only [String.ofList_toList, declared]

/-- A body is the declarations it was made of. -/
theorem declarations?_body {scheme : Scheme} {colored : List (String × Color)}
    (h : ∀ entry ∈ colored, Plain entry.1 ∧ Plain (entry.2.shade scheme)) :
    declarations? ('\n' :: colored.flatMap (declaration scheme)) =
      some (colored.map (declared scheme)) := by
  induction colored with
  | nil => rfl
  | cons entry colored ih =>
      rcases h entry List.mem_cons_self with ⟨hkey, hcolor⟩
      have hrest := ih fun other hother => h other (List.mem_cons_of_mem entry hother)
      -- The semicolon of the first declaration is the first cut.
      have hbody : '\n' :: (entry :: colored).flatMap (declaration scheme) =
          (['\n', ' ', ' '] ++ declarationText scheme entry) ++
            ';' :: '\n' :: colored.flatMap (declaration scheme) := by
        rw [List.flatMap_cons, declaration_eq]
        simp only [List.cons_append, List.append_assoc, List.nil_append]
      have hpiece : pieces ';' (['\n', ' ', ' '] ++ declarationText scheme entry) =
          [declarationText scheme entry] := by
        have hfree := not_mem_declarationText hkey hcolor (c := ';') (by decide) (by decide)
        rw [declarationText, toList_colorProperty] at hfree ⊢
        exact pieces_eq_singleton _ (by decide) (by decide) hfree
      rw [declarations?] at hrest ⊢
      rw [hbody, pieces_append, hpiece, List.mapM_append, List.mapM_cons,
        declaration?_text hkey, hrest]
      rfl

/-! ### Rules -/

/-- The rule that a style block writes for a scheme. -/
def styleRule (id : String) (colored : List (String × Color)) (scheme : Scheme) : Rule :=
  ⟨marks id scheme, colored.map (declared scheme)⟩

/-- A block up to its closing brace. -/
def openBlock (id : String) (colored : List (String × Color)) (scheme : Scheme) : List Char :=
  ((schemeSelector scheme).toList ++ chartSelector id ++ [' ']) ++
    '\x7b' :: '\n' :: colored.flatMap (declaration scheme)

theorem styleBlock_eq (id : String) (colored : List (String × Color)) (scheme : Scheme) :
    styleBlock id colored scheme = openBlock id colored scheme ++ ['\x7d'] := by
  simp only [styleBlock, openBlock, chartSelector, List.append_assoc, List.cons_append]
  rfl

theorem rule?_openBlock {raw : String} {colored : List (String × Color)} {scheme : Scheme}
    (h : ∀ entry ∈ colored, Plain entry.1 ∧ Plain (entry.2.shade scheme)) :
    rule? (openBlock (chartId raw) colored scheme) =
      some (styleRule (chartId raw) colored scheme) := by
  -- The first brace opens the body, as there is none in a selector.
  have hfree : '\x7b' ∉ (schemeSelector scheme).toList ++ chartSelector (chartId raw) ++ [' '] := by
    rw [List.mem_append, List.mem_append, not_or, not_or]
    refine ⟨⟨?_, not_mem_chartSelector raw (by decide) (by decide)⟩, by decide⟩
    cases scheme <;> decide
  have hsplit : splitFirst '\x7b' (openBlock (chartId raw) colored scheme) = some (_, _) :=
    Text.splitFirst_eq_some.mpr ⟨rfl, hfree⟩
  rw [rule?, hsplit]
  simp only [Option.bind_eq_bind, Option.bind_some, selector?_style, declarations?_body h,
    Option.pure_def, styleRule]

/-- No brace closes a block before its end. -/
theorem not_mem_openBlock (raw : String) {colored : List (String × Color)} {scheme : Scheme}
    (h : ∀ entry ∈ colored, Plain entry.1 ∧ Plain (entry.2.shade scheme)) :
    '\x7d' ∉ openBlock (chartId raw) colored scheme := by
  have hselector : '\x7d' ∉ chartSelector (chartId raw) :=
    not_mem_chartSelector raw (by decide) (by decide)
  have hscheme : '\x7d' ∉ (schemeSelector scheme).toList := by
    cases scheme <;> decide
  have hbody : '\x7d' ∉ colored.flatMap (declaration scheme) := by
    intro hmem
    rcases List.mem_flatMap.mp hmem with ⟨entry, hentry, hmem⟩
    rcases h entry hentry with ⟨hkey, hcolor⟩
    have hfree := not_mem_declarationText hkey hcolor (c := '\x7d') (by decide) (by decide)
    simp only [declaration_eq, List.mem_cons, Char.reduceEq, List.mem_append, hfree,
      List.not_mem_nil, or_self] at hmem
  simp [openBlock, hselector, hscheme, hbody]

/-- A block is one piece of its sheet, whatever is blank in front of it. -/
theorem pieces_openBlock {raw : String} {colored : List (String × Color)} {scheme : Scheme}
    (h : ∀ entry ∈ colored, Plain entry.1 ∧ Plain (entry.2.shade scheme)) (blanks : List Char)
    (hblanks : (blanks.all fun b => isBlank b && b != '\x7d') = true) :
    pieces '\x7d' (blanks ++ openBlock (chartId raw) colored scheme) =
      [openBlock (chartId raw) colored scheme] := by
  have hfree := not_mem_openBlock raw h
  cases scheme <;> exact pieces_eq_singleton blanks hblanks (by decide) hfree

/-- A style block is one rule for each scheme, the light one first. -/
theorem rules?_style {raw : String} {colored : List (String × Color)}
    (h : ∀ entry ∈ colored, Plain entry.1 ∧ ∀ scheme, Plain (entry.2.shade scheme)) :
    rules? (styleBlock (chartId raw) colored .light ++
        '\n' :: styleBlock (chartId raw) colored .dark) =
      some [styleRule (chartId raw) colored .light, styleRule (chartId raw) colored .dark] := by
  have hplain : ∀ scheme, ∀ entry ∈ colored, Plain entry.1 ∧ Plain (entry.2.shade scheme) :=
    fun scheme entry hentry => ⟨(h entry hentry).1, (h entry hentry).2 scheme⟩
  -- Each block ends in the brace that its piece is cut at.
  have htext : styleBlock (chartId raw) colored .light ++
      '\n' :: styleBlock (chartId raw) colored .dark =
        ([] ++ openBlock (chartId raw) colored .light) ++
          '\x7d' :: ((['\n'] ++ openBlock (chartId raw) colored .dark) ++ '\x7d' :: []) := by
    simp only [styleBlock_eq, List.append_assoc, List.cons_append, List.nil_append]
  rw [rules?, htext, pieces_append, pieces_append, pieces_openBlock (hplain .light) [] (by decide),
    pieces_openBlock (hplain .dark) ['\n'] (by decide), List.mapM_append, List.mapM_append,
    List.mapM_cons, List.mapM_cons, rule?_openBlock (hplain .light),
    rule?_openBlock (hplain .dark)]
  rfl

end StyleSheet

end DashKit
