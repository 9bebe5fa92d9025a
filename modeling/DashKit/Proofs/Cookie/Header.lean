import DashKit.Cookie

/-!
# Written Cookie Headers

What is read out of a header that a browser put together from its cookies.

A browser writes `name=value` for each cookie and joins the pieces with a
semicolon and a blank. Reading cuts at semicolons, trims, and cuts at the
first equals sign, which undoes the writing only if nothing in a name or a
value is mistaken for one of these. `Plain` says what that takes, and it is
not symmetric: a value may contain equals signs and begin with blanks, because
an equals sign stands in front of it, while a name may end with blanks but not
begin with them. A value that ends with blanks loses them and does no other
harm, so most of the reading asks for `Delimited` only.

The blank that joins two cookies ends up in front of the second piece, so the
induction over the cookies is done for a header with any blanks in front.

## Main definitions

* `Jar`: The cookies of a browser in order, with their names and values.
* `Cookie.Plain`: A cookie that can be told from its neighbours in a header.
* `Cookie.Delimited`: The same, but blanks may stand at the end of its value.
* `Jar.header`: The header that a browser presents.

## Theorems

* `pairs_append`, `pairs_piece`: Pairs are read piece by piece.
* `pairs_header`: The cookies are read back in their order, with what their
  values are without the blanks at the end.
* `lookup_header`: A look-up finds the first cookie of the name.
-/

namespace DashKit

/-- The cookies of a browser in order, each with its name and its value. -/
abbrev Jar := List (String × String)

/-- A cookie that can be told from its neighbours in a header. -/
structure Cookie.Plain (cookie : String × String) : Prop where
  name_semicolon : ';' ∉ cookie.1.toList
  name_equals : '=' ∉ cookie.1.toList
  name_head : ∀ c ∈ cookie.1.toList.head?, Text.isBlank c = false
  value_semicolon : ';' ∉ cookie.2.toList
  value_last : ∀ c ∈ cookie.2.toList.getLast?, Text.isBlank c = false

/-- A cookie that a header keeps apart from its neighbours, though not the
    blanks at the end of its value. -/
structure Cookie.Delimited (cookie : String × String) : Prop where
  name_semicolon : ';' ∉ cookie.1.toList
  name_equals : '=' ∉ cookie.1.toList
  name_head : ∀ c ∈ cookie.1.toList.head?, Text.isBlank c = false
  value_semicolon : ';' ∉ cookie.2.toList

/-- A cookie as it stands in a header. -/
def Jar.piece (cookie : String × String) : String :=
  cookie.1 ++ "=" ++ cookie.2

/-- The header that a browser presents. -/
def Jar.header (jar : Jar) : String :=
  "; ".intercalate (jar.map piece)

namespace Cookie

theorem toList_piece (cookie : String × String) :
    (Jar.piece cookie).toList = cookie.1.toList ++ '=' :: cookie.2.toList := by
  simp only [Jar.piece, String.toList_append, String.reduceToList, List.append_assoc,
    List.cons_append, List.nil_append]

theorem Plain.delimited {cookie : String × String} (h : Plain cookie) : Delimited cookie :=
  ⟨h.name_semicolon, h.name_equals, h.name_head, h.value_semicolon⟩

theorem Delimited.piece_semicolon {cookie : String × String} (h : Delimited cookie) :
    ';' ∉ (Jar.piece cookie).toList := by
  rw [toList_piece]
  intro hm
  -- Neither the name nor the sign nor the value has one.
  rcases List.mem_append.mp hm with hm | hm
  · exact h.name_semicolon hm
  · rcases List.mem_cons.mp hm with hm | hm
    · exact absurd hm (by decide)
    · exact h.value_semicolon hm

/-- A piece begins with its name, or with the equals sign if that is empty. -/
theorem Delimited.piece_head {cookie : String × String} (h : Delimited cookie) :
    ∀ c ∈ (Jar.piece cookie).toList.head?, Text.isBlank c = false := by
  rw [toList_piece]
  have hname := h.name_head
  -- Without a name the piece starts with the equals sign, which is no blank.
  cases hn : cookie.1.toList with
  | nil =>
      intro c hc
      rw [List.nil_append, List.head?_cons, Option.mem_some_iff] at hc
      rw [← hc]
      decide
  | cons d r =>
      rw [hn] at hname
      exact hname

/-- The pair of one piece, whatever blanks stand in front of it. The equals sign
    is what the blanks at the end of the value end at, if not at the value. -/
theorem splitFirst_piece {cookie : String × String} (h : Delimited cookie) {blanks : List Char}
    (hb : ∀ c ∈ blanks, Text.isBlank c = true) :
    Text.splitFirst '=' (Text.trim (blanks ++ (Jar.piece cookie).toList)) =
      some (cookie.1.toList, Text.trimEnd cookie.2.toList) := by
  rw [Text.trim_blanks_append hb h.piece_head, toList_piece,
    Text.trimEnd_append_cons _ _ (by decide)]
  exact Text.splitFirst_eq_some.mpr ⟨rfl, h.name_equals⟩

/-- Pairs are read piece by piece. -/
theorem pairs_append (s t : List Char) : pairs (s ++ ';' :: t) = pairs s ++ pairs t := by
  rw [pairs, Text.fields_append, List.filterMap_append, pairs, pairs]

theorem pairs_of_not_mem {s : List Char} (h : ';' ∉ s) :
    pairs s = (Text.splitFirst '=' (Text.trim s)).toList := by
  rw [pairs, Text.fields_eq_singleton h]
  cases hs : Text.splitFirst '=' (Text.trim s) <;> simp [hs]

theorem semicolon_not_mem_blanks {blanks : List Char} (hb : ∀ c ∈ blanks, Text.isBlank c = true) :
    ';' ∉ blanks := by
  intro hm
  exact absurd (hb _ hm) (by decide)

/-- A piece is read as one pair, whatever blanks stand in front of it. -/
theorem pairs_piece {cookie : String × String} (h : Delimited cookie) {blanks : List Char}
    (hb : ∀ c ∈ blanks, Text.isBlank c = true) :
    pairs (blanks ++ (Jar.piece cookie).toList) =
      [(cookie.1.toList, Text.trimEnd cookie.2.toList)] := by
  -- A piece has no semicolon, so it is a field of its own.
  have hsemi : ';' ∉ blanks ++ (Jar.piece cookie).toList := by
    rw [List.mem_append, not_or]
    exact ⟨semicolon_not_mem_blanks hb, h.piece_semicolon⟩
  rw [pairs_of_not_mem hsemi, splitFirst_piece h hb]
  rfl

/-- The blank that joins two cookies goes with those behind it. -/
theorem toList_header_cons (cookie other : String × String) (others : Jar) :
    (Jar.header (cookie :: other :: others)).toList =
      (Jar.piece cookie).toList ++ ';' :: ([' '] ++ (Jar.header (other :: others)).toList) := by
  simp [Jar.header, String.intercalate_cons_cons]

/-- Cookies are read back from a header in their order, also when blanks stand
    in front of it. -/
theorem pairs_header {jar : Jar} (h : ∀ cookie ∈ jar, Delimited cookie) {blanks : List Char}
    (hb : ∀ c ∈ blanks, Text.isBlank c = true) :
    pairs (blanks ++ jar.header.toList) =
      jar.map fun cookie => (cookie.1.toList, Text.trimEnd cookie.2.toList) := by
  induction jar generalizing blanks with
  | nil =>
      have hsemi := semicolon_not_mem_blanks hb
      have htrim := Text.trim_blanks_append (s := []) hb nofun
      rw [Jar.header, List.map_nil, String.intercalate_nil, String.toList_empty,
        pairs_of_not_mem (by rwa [List.append_nil]), htrim]
      rfl
  -- The blank behind a semicolon belongs to the next piece, so the induction is over any blanks.
  | cons cookie jar ih =>
      have hfirst := pairs_piece (h cookie List.mem_cons_self) hb
      have hrest := fun other ho => h other (List.mem_cons_of_mem _ ho)
      cases jar with
      | nil =>
          rw [Jar.header, List.map_cons, List.map_nil, String.intercalate_singleton, hfirst]
          rfl
      | cons other others =>
          have hblank : ∀ c ∈ [' '], Text.isBlank c = true := by
            simp [Text.isBlank, Text.blankRanges]
          rw [toList_header_cons, ← List.append_assoc, pairs_append, hfirst, ih hrest hblank]
          rfl

/-- A look-up in a header finds the first cookie of the name, and its value
    without the blanks at the end. -/
theorem lookup_header_trimmed {jar : Jar} (h : ∀ cookie ∈ jar, Delimited cookie) (name : String) :
    lookup jar.header name = (jar.find? fun cookie => cookie.1 == name).map fun cookie =>
      String.ofList (Text.trimEnd cookie.2.toList) := by
  have hpairs := @pairs_header jar h [] fun _ hb => absurd hb List.not_mem_nil
  rw [List.nil_append] at hpairs
  rw [lookup, hpairs, List.find?_map, Option.map_map]
  -- Names are compared as texts and as their characters, which is the same.
  have hname : ((fun pair : List Char × List Char => pair.1 == name.toList) ∘
      fun cookie : String × String => (cookie.1.toList, Text.trimEnd cookie.2.toList)) =
      fun cookie => cookie.1 == name := by
    funext cookie
    rw [Function.comp_apply, Bool.eq_iff_iff, beq_iff_eq, beq_iff_eq, String.toList_inj]
  rw [hname]
  rfl

/-- A look-up in a header of plain cookies finds the value of the first cookie
    of the name. -/
theorem lookup_header {jar : Jar} (h : ∀ cookie ∈ jar, Plain cookie) (name : String) :
    lookup jar.header name = (jar.find? fun cookie => cookie.1 == name).map Prod.snd := by
  rw [lookup_header_trimmed fun cookie hc => (h cookie hc).delimited]
  refine Option.map_congr ?_
  intro cookie hc
  -- Nothing is trimmed off a value that does not end in a blank.
  have hplain := h cookie (List.mem_of_find?_eq_some hc)
  rw [Text.trimEnd_eq_self.mpr hplain.value_last, String.ofList_toList]

end Cookie

end DashKit
