import DashKit.Page.Html
import DashKit.Text.Fields

/-!
# Markup Read Back

The text of a page read as tags and text, the way a browser reads it.

A page is written from nodes and never read again by those who write it. Who
does is a browser, and it goes by single characters: an angle bracket starts a
tag or ends it, a quote starts a value or ends it, and an ampersand starts an
escape. `tokens?` is that reading for the part of the language that nodes are
written in, and it gives up on anything else, such as an attribute without a
value.

Writing escapes exactly the characters that a reading cuts at. So a text is cut
where its tags are and nowhere else, which is why the reading can be by `fields`
and needs no memory of where it is. What was escaped is replaced only after the
cutting, piece by piece.

Two kinds of nodes cannot be told apart from others by reading. Text that is
written as it stands may look like tags, and of two texts side by side nobody can
say where the first one ended. Nodes without these are `isReadable`.

## Main definitions

* `Token`: A tag with its attributes, or text.
* `Markup.unescape`: A text with its escapes replaced.
* `Markup.tokens?`: The tokens of a text.
* `Html.tokens`: The tokens that a node should be read as.
* `Html.isReadable`: Nodes that are written in a way that can be read.

## Theorems

* `Markup.unescape_text`, `Markup.unescape_value`: Escaping is undone.
* `Markup.tokens?_tag`, `Markup.tokens?_text`: A tag and a text in front of what
  follows them.
* `Html.tokens?_writeAll`, `Html.tokens?_written`: Written nodes are read as their
  tokens, in front of what follows them and alone.
-/

namespace DashKit

/-- A piece of written markup. -/
inductive Token
  | opening (tag : String) (attributes : List (String × String))
  | closing (tag : String)
  | text (content : String)
  deriving DecidableEq, Repr

namespace Markup

open Text (fields splitFirst)

/-- A text with its escapes replaced by the characters they stand for. -/
def unescape : List Char → List Char
  | '&' :: 'a' :: 'm' :: 'p' :: ';' :: text => '&' :: unescape text
  | '&' :: 'l' :: 't' :: ';' :: text => '<' :: unescape text
  | '&' :: 'g' :: 't' :: ';' :: text => '>' :: unescape text
  | '&' :: 'q' :: 'u' :: 'o' :: 't' :: ';' :: text => '"' :: unescape text
  | c :: text => c :: unescape text
  | [] => []

/-- Attributes, from the pieces between quotes: what stands in front of a value,
    and the value, in turn. -/
def attributes? : List (List Char) → Option (List (String × String))
  | [[]] => some []
  | (' ' :: front) :: value :: pieces =>
      match splitFirst '=' front with
      | some (name, []) =>
          (attributes? pieces).map ((String.ofList name, String.ofList (unescape value)) :: ·)
      | _ => none
  | _ => none

/-- The tag that stands between angle brackets. -/
def tag? (inside : List Char) : Option Token :=
  if inside.head? = some '/' then some (.closing (String.ofList inside.tail))
  else
    (attributes? (fields '"' (inside.dropWhile (· != ' ')))).map
      (Token.opening (String.ofList (inside.takeWhile (· != ' '))))

/-- The text that stands between two tags, if there is any. -/
def text? (text : List Char) : List Token :=
  if text = [] then [] else [.text (String.ofList (unescape text))]

/-- A tag without the bracket in front of it, and the text behind it. -/
def piece? (piece : List Char) : Option (List Token) :=
  match splitFirst '>' piece with
  | some (inside, behind) => (tag? inside).map (· :: text? behind)
  | none => none

/-- The tokens of a text. -/
def tokens? (text : List Char) : Option (List Token) :=
  match fields '<' text with
  | [] => none
  | first :: pieces => (pieces.mapM piece?).map fun tokens => text? first ++ tokens.flatten

/-! ### Escapes -/

/-- What is not an ampersand stands for itself. -/
theorem unescape_cons {c : Char} (h : c ≠ '&') (text : List Char) :
    unescape (c :: text) = c :: unescape text := by
  rw [unescape] <;> simp only [h, imp_false, false_implies, implies_true]

/-- If an escape is read as its character, then an escaped text is read as the
    text. -/
theorem unescape_flatMap {escape : Char → List Char}
    (h : ∀ c text, unescape (escape c ++ text) = c :: unescape text) (s : List Char) :
    unescape (s.flatMap escape) = s := by
  induction s with
  | nil => rfl
  | cons c s ih => rw [List.flatMap_cons, h, ih]

theorem unescape_escapeTextChar (c : Char) (text : List Char) :
    unescape (escapeTextChar c ++ text) = c :: unescape text := by
  unfold escapeTextChar
  split
  · rfl
  · rfl
  · rfl
  · next h _ _ => exact unescape_cons h text

theorem unescape_escapeValueChar (c : Char) (text : List Char) :
    unescape (escapeValueChar c ++ text) = c :: unescape text := by
  unfold escapeValueChar
  split
  · rfl
  · exact unescape_escapeTextChar c text

/-- Escaping a text is undone. -/
theorem unescape_text (s : List Char) : unescape (s.flatMap escapeTextChar) = s :=
  unescape_flatMap unescape_escapeTextChar s

/-- Escaping a value is undone. -/
theorem unescape_value (s : List Char) : unescape (s.flatMap escapeValueChar) = s :=
  unescape_flatMap unescape_escapeValueChar s

/-- No escaped text opens or closes a tag. -/
theorem not_mem_escapeTextChar {x : Char} (hx : x = '<' ∨ x = '>') (c : Char) :
    x ∉ escapeTextChar c := by
  unfold escapeTextChar
  split
  · rcases hx with rfl | rfl <;> decide
  · rcases hx with rfl | rfl <;> decide
  · rcases hx with rfl | rfl <;> decide
  · next _ hopen hclose =>
      rw [List.mem_singleton]
      rintro rfl
      exact hx.elim hopen hclose

theorem not_mem_escapeTextChar_quote {c : Char} (h : c ≠ '"') : '"' ∉ escapeTextChar c := by
  unfold escapeTextChar
  split
  · decide
  · decide
  · decide
  · rw [List.mem_singleton]
    exact h.symm

/-- No escaped value opens or closes a tag or ends itself. -/
theorem not_mem_escapeValueChar {x : Char} (hx : x = '"' ∨ x = '<' ∨ x = '>') (c : Char) :
    x ∉ escapeValueChar c := by
  unfold escapeValueChar
  split
  · rcases hx with rfl | rfl | rfl <;> decide
  · next hc =>
      rcases hx with rfl | hbracket
      · exact not_mem_escapeTextChar_quote hc
      · exact not_mem_escapeTextChar hbracket c

theorem not_mem_flatMap {escape : Char → List Char} {x : Char} (h : ∀ c, x ∉ escape c)
    (s : List Char) : x ∉ s.flatMap escape := by
  rw [List.mem_flatMap]
  rintro ⟨c, _, hmem⟩
  exact h c hmem

/-! ### Tags -/

/-- The characters that a reading of tags cuts at. -/
def cuts : List Char :=
  [' ', '"', '<', '>', '=', '/']

/-- A name of a tag or an attribute that is not cut. -/
def isName (name : String) : Bool :=
  name.toList.all fun c => !cuts.contains c

theorem not_mem_name {name : String} (h : isName name = true) {c : Char} (hc : c ∈ cuts) :
    c ∉ name.toList := by
  intro hmem
  have hfree := List.all_eq_true.mp h c hmem
  rw [Bool.not_eq_true', List.contains_eq_mem, decide_eq_false_iff_not] at hfree
  exact hfree hc

/-- An attribute as it is written. -/
def attributeText (pair : String × String) : List Char :=
  (' ' :: (pair.1.toList ++ ['='])) ++
    '"' :: (pair.2.toList.flatMap escapeValueChar ++ ['"'])

/-- Written attributes are read as they were. -/
theorem attributes?_text {attributes : List (String × String)}
    (h : ∀ pair ∈ attributes, isName pair.1 = true) :
    attributes? (fields '"' (attributes.flatMap attributeText)) = some attributes := by
  induction attributes with
  | nil => rfl
  | cons pair attributes ih =>
      -- An attribute is cut into three: what stands in front of the value, the value, the rest.
      have hname := h pair List.mem_cons_self
      have hrest := ih fun other hother => h other (List.mem_cons_of_mem pair hother)
      have htext : (pair :: attributes).flatMap attributeText =
          (' ' :: (pair.1.toList ++ ['='])) ++
            '"' :: (pair.2.toList.flatMap escapeValueChar ++
              '"' :: attributes.flatMap attributeText) := by
        simp only [List.flatMap_cons, attributeText, List.cons_append, List.append_assoc,
          List.nil_append]
      have hfront : '"' ∉ ' ' :: (pair.1.toList ++ ['=']) := by
        simp only [List.mem_cons, Char.reduceEq, List.mem_append, not_mem_name hname (c := '"')
          (by decide), List.not_mem_nil, or_self, not_false_eq_true]
      have hvalue : '"' ∉ pair.2.toList.flatMap escapeValueChar :=
        not_mem_flatMap (not_mem_escapeValueChar (by decide)) _
      have hsplit : splitFirst '=' (pair.1.toList ++ ['=']) =
          some (pair.1.toList, []) :=
        Text.splitFirst_eq_some.mpr ⟨rfl, not_mem_name hname (by decide)⟩
      rw [htext, Text.fields_append, Text.fields_append, Text.fields_eq_singleton hfront,
        Text.fields_eq_singleton hvalue]
      simp only [List.singleton_append, attributes?, hsplit, hrest, Option.map_some,
        unescape_value, String.ofList_toList]

/-- What is written between the brackets of an opening tag. -/
def openingText (tag : String) (attributes : List (String × String)) : List Char :=
  tag.toList ++ attributes.flatMap attributeText

theorem tag?_opening {tag : String} (htag : isName tag = true)
    {attributes : List (String × String)}
    (h : ∀ pair ∈ attributes, isName pair.1 = true) :
    tag? (openingText tag attributes) = some (.opening tag attributes) := by
  have hname : ∀ c ∈ tag.toList, (c != ' ') = true :=
    Text.bne_of_not_mem (not_mem_name htag (by decide))
  -- Attributes begin with a blank, and so the name ends in front of them.
  have hblank : ∀ c ∈ (attributes.flatMap attributeText).head?, c = ' ' := by
    cases attributes with
    | nil => simp only [List.flatMap_nil, List.head?_nil, Option.mem_def, reduceCtorEq,
        false_implies, implies_true]
    | cons pair attributes => simp [attributeText, eq_comm]
  -- An opening tag is told from a closing one by its first character.
  have hslash : (openingText tag attributes).head? ≠ some '/' := by
    rw [openingText, List.head?_append]
    cases hhead : tag.toList.head? with
    | none =>
        intro hc
        exact absurd (hblank '/' hc) (by decide)
    | some c =>
        rintro ⟨⟩
        exact not_mem_name htag (by decide) (List.mem_of_mem_head? hhead)
  have htake : (attributes.flatMap attributeText).takeWhile (· != ' ') = [] := by
    cases hrest : attributes.flatMap attributeText with
    | nil => rfl
    | cons c rest =>
        rw [hrest] at hblank
        rw [hblank c rfl]
        rfl
  have hdrop : (attributes.flatMap attributeText).dropWhile (· != ' ') =
      attributes.flatMap attributeText := by
    have happend := List.takeWhile_append_dropWhile (p := (· != ' '))
      (l := attributes.flatMap attributeText)
    rwa [htake] at happend
  rw [tag?, if_neg hslash, openingText, List.takeWhile_append_of_pos hname,
    List.dropWhile_append_of_pos hname, htake, hdrop, attributes?_text h, List.append_nil,
    String.ofList_toList, Option.map_some]

theorem not_mem_openingText {tag : String} (htag : isName tag = true)
    {attributes : List (String × String)}
    (h : ∀ pair ∈ attributes, isName pair.1 = true) {c : Char} (hc : c = '<' ∨ c = '>') :
    c ∉ openingText tag attributes := by
  -- Brackets are in no name, and values have them escaped.
  have hcut : c ∈ cuts := by
    rcases hc with rfl | rfl <;> decide
  have hmark : c ≠ ' ' ∧ c ≠ '=' ∧ c ≠ '"' := by
    rcases hc with rfl | rfl <;> decide
  have hvalue : ∀ d, c ∉ escapeValueChar d :=
    not_mem_escapeValueChar (.inr hc)
  rw [openingText, List.mem_append, not_or]
  refine ⟨not_mem_name htag hcut, ?_⟩
  intro hmem
  rcases List.mem_flatMap.mp hmem with ⟨pair, hpair, hmem⟩
  have hname := not_mem_name (h pair hpair) hcut
  have hfree := not_mem_flatMap hvalue pair.2.toList
  simp [attributeText, hname, hfree, hmark] at hmem

/-! ### Tokens -/

/-- Nothing follows, or a tag does. -/
def Opens (rest : List Char) : Prop :=
  ∀ c ∈ rest.head?, c = '<'

/-- The first piece of what follows, and the others. -/
theorem exists_fields (rest : List Char) :
    ∃ first pieces, fields '<' rest = first :: pieces ∧
      tokens? rest = (pieces.mapM piece?).map fun tokens => text? first ++ tokens.flatten := by
  cases hrest : fields '<' rest with
  | nil => exact absurd hrest (Text.fields_ne_nil '<' rest)
  | cons first pieces => exact ⟨first, pieces, rfl, by rw [tokens?, hrest]⟩

/-- A bracket starts a new piece, and there is no text in front of it. -/
theorem tokens?_bracket (rest : List Char) :
    tokens? ('<' :: rest) = ((fields '<' rest).mapM piece?).map List.flatten := by
  have hfields : fields '<' ('<' :: rest) = [] :: fields '<' rest :=
    Text.fields_append '<' [] rest
  rw [tokens?, hfields]
  rfl

/-- A tag in front of what follows it. -/
theorem tokens?_tag {inside : List Char} (hopen : '<' ∉ inside) (hclose : '>' ∉ inside)
    {token : Token} (htag : tag? inside = some token) (rest : List Char) :
    tokens? ('<' :: (inside ++ '>' :: rest)) = (tokens? rest).map (token :: ·) := by
  rcases exists_fields rest with ⟨first, pieces, hfields, htokens⟩
  -- Up to the next bracket, what follows is in one piece with the tag.
  have hbehind : fields '<' ('>' :: rest) = ('>' :: first) :: pieces :=
    Text.fields_append_of_not_mem (s := ['>']) (by decide) hfields
  have hpiece : piece? (inside ++ '>' :: first) = some (token :: text? first) := by
    have hsplit : splitFirst '>' (inside ++ '>' :: first) = some (inside, first) :=
      Text.splitFirst_eq_some.mpr ⟨rfl, hclose⟩
    rw [piece?, hsplit]
    simp only [htag, Option.map_some]
  rw [tokens?_bracket, Text.fields_append_of_not_mem hopen hbehind, htokens, List.mapM_cons,
    hpiece]
  cases pieces.mapM piece? <;> rfl

/-- A text in front of what follows it. -/
theorem tokens?_text {s : List Char} (hs : '<' ∉ s) {rest : List Char} (h : Opens rest) :
    tokens? (s ++ rest) = (tokens? rest).map (text? s ++ ·) := by
  cases rest with
  | nil =>
      rw [List.append_nil, tokens?, Text.fields_eq_singleton hs]
      rfl
  | cons c rest =>
      obtain rfl : c = '<' := h c rfl
      rw [tokens?_bracket, tokens?, Text.fields_append, Text.fields_eq_singleton hs]
      exact (Option.map_map _ _ _).symm

end Markup

open Markup

namespace Attributes

/-- The attributes that have a value, as they are written. -/
def pairs (attributes : Attributes) : List (String × String) :=
  attributes.named.filterMap (fun entry => entry.2.map (entry.1, ·))
    ++ attributes.className.toList.map (("class", ·))
    ++ (attributes.style.map (· ++ ";")).toList.map (("style", ·))

/-- Every attribute has a value and a legible name. -/
def isReadable (attributes : Attributes) : Bool :=
  attributes.named.all fun entry => isName entry.1 && entry.2.isSome

end Attributes

namespace Html

/-- The node is a text. -/
def isText : Html → Bool
  | text _ => true
  | _ => false

mutual

/-- The tokens that a node should be read as. -/
def tokens : Html → List Token
  | text content => [.text (if content.isEmpty then " " else content)]
  | verbatim content => [.text content]
  | element tag attributes children =>
      .opening tag attributes.pairs :: (tokensAll children ++ [.closing tag])
  | void tag attributes => [.opening tag attributes.pairs]

/-- The tokens of nodes, one after another. -/
def tokensAll : List Html → List Token
  | [] => []
  | node :: nodes => tokens node ++ tokensAll nodes

end

mutual

/-- A node whose text can be read. -/
def isReadable : Html → Bool
  | text _ => true
  | verbatim _ => false
  | element tag attributes children =>
      isName tag && attributes.isReadable && allReadable children
  | void tag attributes => isName tag && attributes.isReadable

/-- Nodes whose text can be read, no two texts of them side by side. -/
def allReadable : List Html → Bool
  | [] => true
  | node :: nodes =>
      isReadable node && allReadable nodes && !(isText node && nodes.head?.any isText)

end

theorem tokensAll_map {α : Type} (f : α → Html) (as : List α) :
    tokensAll (as.map f) = as.flatMap fun a => tokens (f a) := by
  induction as with
  | nil => rfl
  | cons a as ih => rw [List.map_cons, tokensAll, ih, List.flatMap_cons]

theorem allReadable_map {α : Type} {f : α → Html} (hread : ∀ a, isReadable (f a) = true)
    (htext : ∀ a, isText (f a) = false) (as : List α) : allReadable (as.map f) = true := by
  induction as with
  | nil => rfl
  | cons a as ih => rw [List.map_cons, allReadable, hread, ih, htext, Bool.false_and]; rfl

/-! ### Written Nodes -/

theorem writeAll_append (nodes others : List Html) :
    writeAll (nodes ++ others) = writeAll nodes ++ writeAll others := by
  induction nodes with
  | nil => rw [List.nil_append, writeAll, String.empty_append]
  | cons node nodes ih => rw [List.cons_append, writeAll, writeAll, ih, String.append_assoc]

theorem writeAll_singleton (node : Html) : writeAll [node] = node.write := by
  rw [writeAll, writeAll, String.append_empty]

/-- Attributes are written as their pairs. -/
theorem toList_write_attributes {attributes : Attributes} (h : attributes.isReadable = true) :
    attributes.write.toList = attributes.pairs.flatMap attributeText := by
  -- Named attributes, the class and the style are written one like the other.
  have hone : ∀ name value : String,
      (Attributes.writeOne name (some value)).toList = attributeText (name, value) := by
    intro name value
    simp [Attributes.writeOne, escapeValue, attributeText]
  have hnamed : ∀ named : List (String × Option String),
      (named.all fun entry => isName entry.1 && entry.2.isSome) = true →
      (named.foldr (fun entry rest => Attributes.writeOne entry.1 entry.2 ++ rest) "").toList =
        (named.filterMap fun entry => entry.2.map (entry.1, ·)).flatMap attributeText := by
    intro named
    induction named with
    | nil => exact fun _ => rfl
    | cons entry named ih =>
        rcases entry with ⟨name, _ | value⟩
        · simp
        · intro hall
          rw [List.all_cons, Bool.and_eq_true] at hall
          rw [List.foldr_cons, String.toList_append, hone, ih hall.2]
          rfl
  have hoptional : ∀ (name : String) (value : Option String),
      (Attributes.writeOptional name value).toList =
        (value.toList.map ((name, ·))).flatMap attributeText := by
    intro name value
    cases value with
    | none => rfl
    | some value => rw [Attributes.writeOptional, hone, Option.toList_some, List.map_singleton,
        List.flatMap_singleton]
  rw [Attributes.write, String.toList_append, String.toList_append, hnamed _ h, hoptional,
    hoptional, Attributes.pairs, List.flatMap_append, List.flatMap_append]

theorem isName_of_mem_pairs {attributes : Attributes} (h : attributes.isReadable = true) :
    ∀ pair ∈ attributes.pairs, isName pair.1 = true := by
  intro pair hpair
  rw [Attributes.pairs, List.mem_append, List.mem_append] at hpair
  rcases hpair with (hnamed | hclass) | hstyle
  · rcases List.mem_filterMap.mp hnamed with ⟨entry, hentry, hvalue⟩
    rcases Option.map_eq_some_iff.mp hvalue with ⟨value, _, rfl⟩
    exact (Bool.and_eq_true_iff.mp (List.all_eq_true.mp h entry hentry)).1
  · rcases List.mem_map.mp hclass with ⟨value, _, rfl⟩
    exact (by decide : isName "class" = true)
  · rcases List.mem_map.mp hstyle with ⟨value, _, rfl⟩
    exact (by decide : isName "style" = true)

/-- An opening tag in front of what follows it. -/
theorem tokens?_opening {tag : String} (htag : isName tag = true) {attributes : Attributes}
    (h : attributes.isReadable = true) (rest : List Char) :
    tokens? (("<" ++ tag ++ attributes.write ++ ">").toList ++ rest) =
      (tokens? rest).map (.opening tag attributes.pairs :: ·) := by
  have hpairs := isName_of_mem_pairs h
  have htext : ("<" ++ tag ++ attributes.write ++ ">").toList ++ rest =
      '<' :: (openingText tag attributes.pairs ++ '>' :: rest) := by
    simp only [String.toList_append, String.reduceToList, List.cons_append, List.nil_append,
      toList_write_attributes h, List.append_assoc, openingText]
  rw [htext]
  exact tokens?_tag (not_mem_openingText htag hpairs (by decide))
    (not_mem_openingText htag hpairs (by decide)) (tag?_opening htag hpairs) rest

/-- A closing tag in front of what follows it. -/
theorem tokens?_closing {tag : String} (htag : isName tag = true) (rest : List Char) :
    tokens? (("</" ++ tag ++ ">").toList ++ rest) = (tokens? rest).map (.closing tag :: ·) := by
  -- A closing tag is a tag whose text starts with a slash.
  have htext : ("</" ++ tag ++ ">").toList ++ rest =
      '<' :: (('/' :: tag.toList) ++ '>' :: rest) := by
    simp only [String.toList_append, String.reduceToList, List.cons_append, List.nil_append,
      List.append_assoc]
  have hread : tag? ('/' :: tag.toList) = some (.closing tag) := by
    rw [tag?, List.head?_cons, if_pos rfl, List.tail_cons, String.ofList_toList]
  -- No name has a bracket in it, and a slash is none.
  have hopen : '<' ∉ '/' :: tag.toList :=
    List.not_mem_cons_of_ne_of_not_mem (by decide) (not_mem_name htag (by decide))
  have hclose : '>' ∉ '/' :: tag.toList :=
    List.not_mem_cons_of_ne_of_not_mem (by decide) (not_mem_name htag (by decide))
  rw [htext]
  exact tokens?_tag hopen hclose hread rest

/-- A text in front of a tag. One that is empty is written as a blank. -/
theorem tokens?_textNode (content : String) {rest : List Char} (h : Opens rest) :
    tokens? ((text content).write.toList ++ rest) =
      (tokens? rest).map ((text content).tokens ++ ·) := by
  have hread : ∀ s : String, s.isEmpty = false →
      tokens? ((escapeText s).toList ++ rest) = (tokens? rest).map ([.text s] ++ ·) := by
    intro s hs
    have hfree : '<' ∉ (escapeText s).toList := by
      rw [escapeText, String.toList_ofList]
      exact not_mem_flatMap (not_mem_escapeTextChar (by decide)) _
    have hback : unescape (escapeText s).toList = s.toList := by
      rw [escapeText, String.toList_ofList, unescape_text]
    -- Escaping can be undone, so it leaves no text empty.
    have hsome : (escapeText s).toList ≠ [] := by
      intro hnil
      rw [hnil] at hback
      rw [String.toList_eq_nil_iff.mp hback.symm] at hs
      exact absurd hs (by decide)
    rw [tokens?_text hfree h, text?, if_neg hsome, hback, String.ofList_toList]
  rw [write, tokens]
  cases hempty : content.isEmpty with
  | false => exact hread content hempty
  | true => exact hread " " rfl

theorem opens_closing (tag : String) (rest : List Char) :
    Opens (("</" ++ tag ++ ">").toList ++ rest) := by
  simp [Opens, eq_comm]

/-- A node that is not a text begins with a bracket. -/
theorem opens_write {node : Html} (h : node.isReadable = true) (htext : node.isText = false)
    (rest : List Char) : Opens (node.write.toList ++ rest) := by
  intro c hc
  cases node with
  | text content => exact absurd htext Bool.noConfusion
  | verbatim content => exact absurd h Bool.noConfusion
  | element tag attributes children =>
      simpa [write, eq_comm] using hc
  | void tag attributes =>
      simpa [write, eq_comm] using hc

/-- No text stands behind a text. -/
theorem opens_writeAll {node : Html} {nodes : List Html} (h : allReadable (node :: nodes) = true)
    (htext : node.isText = true) {rest : List Char} (hrest : Opens rest) :
    Opens ((writeAll nodes).toList ++ rest) := by
  cases nodes with
  | nil => exact hrest
  | cons next nodes =>
      -- Two texts are not side by side, so the next node is none.
      simp only [allReadable, Bool.and_eq_true, htext, Bool.true_and, List.head?_cons,
        Option.any_some, Bool.not_eq_true'] at h
      rw [writeAll, String.toList_append, List.append_assoc]
      exact opens_write h.1.2.1.1 h.2 _

mutual

/-- A written node in front of what follows it. -/
theorem tokens?_write : ∀ node : Html, node.isReadable = true → ∀ {rest : List Char},
    (node.isText = true → Opens rest) →
    tokens? (node.write.toList ++ rest) = (tokens? rest).map (node.tokens ++ ·)
  | text content, _, rest, hrest => tokens?_textNode content (hrest rfl)
  | verbatim _, h, _, _ => absurd h Bool.false_ne_true
  | element tag attributes children, h, rest, _ => by
      rw [isReadable, Bool.and_eq_true, Bool.and_eq_true] at h
      have hwrite : (element tag attributes children).write.toList ++ rest =
          ("<" ++ tag ++ attributes.write ++ ">").toList ++
            ((writeAll children).toList ++ (("</" ++ tag ++ ">").toList ++ rest)) := by
        simp only [write, String.toList_append, List.append_assoc]
      -- The last child may be a text, as what follows it is a closing tag.
      rw [hwrite, tokens?_opening h.1.1 h.1.2,
        tokens?_writeAll children h.2 (opens_closing tag rest), tokens?_closing h.1.1,
        Option.map_map, Option.map_map]
      refine congrArg (Option.map · (tokens? rest)) ?_
      funext behind
      simp only [Function.comp_apply, tokens, List.cons_append, List.append_assoc,
        List.nil_append]
  | void tag attributes, h, rest, _ => by
      rw [isReadable, Bool.and_eq_true] at h
      rw [write, tokens?_opening h.1 h.2, tokens]
      rfl

/-- Written nodes in front of what follows them. -/
theorem tokens?_writeAll : ∀ nodes : List Html, allReadable nodes = true → ∀ {rest : List Char},
    Opens rest →
    tokens? ((writeAll nodes).toList ++ rest) = (tokens? rest).map (tokensAll nodes ++ ·)
  | [], _, rest, _ => Option.map_id'.symm
  | node :: nodes, h, rest, hrest => by
      have hnext : node.isText = true → Opens ((writeAll nodes).toList ++ rest) :=
        fun htext => opens_writeAll h htext hrest
      rw [allReadable, Bool.and_eq_true, Bool.and_eq_true] at h
      rw [writeAll, String.toList_append, List.append_assoc, tokens?_write node h.1.1 hnext,
        tokens?_writeAll nodes h.1.2 hrest, Option.map_map]
      refine congrArg (Option.map · (tokens? rest)) ?_
      funext behind
      rw [Function.comp_apply, tokensAll, List.append_assoc]

end

/-- Written nodes are read as their tokens. -/
theorem tokens?_written {nodes : List Html} (h : allReadable nodes = true) :
    tokens? (writeAll nodes).toList = some (tokensAll nodes) := by
  have hend : Opens [] := nofun
  have hread := tokens?_writeAll nodes h hend
  rw [List.append_nil] at hread
  rw [hread]
  exact congrArg some (List.append_nil _)

end Html

end DashKit
