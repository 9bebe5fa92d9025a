import DashKit.Proofs.Cookie.Header

/-!
# Look-Ups in Any Header

What a look-up does with a header that nobody promises to be well written.

A header comes from outside, and anyone may have put a piece into it: one without
an equals sign, an empty one, one with a name that is there already. None of them
disturbs the others. The pieces are read one by one, so that a header is found in
as its parts are, from the front, and what the pieces with an equals sign amount
to is a list of plain cookies, whatever the header looked like.

That is why a name a browser could not tell from a neighbour is never found, and
it is also the whole of what can be said about a found value: any plain cookie is
found in the header that lists nothing else.

## Theorems

* `Cookie.lookup_append`: A look-up tries the front of a header before its back.
* `Cookie.plain_of_mem_pairs`: All that is read out of a header is plain.
* `Cookie.exists_lookup_iff_plain`: What can be found at all are plain cookies.
* `Cookie.lookup_reads_headers`: Look-ups in joined, written and arbitrary headers.
-/

namespace DashKit

namespace Cookie

/-- A look-up tries the front of a header before its back. -/
theorem lookup_append (front back name : String) :
    lookup (front ++ ";" ++ back) name = (lookup front name).or (lookup back name) := by
  have htext : (front ++ ";" ++ back).toList = front.toList ++ ';' :: back.toList := by
    simp only [String.toList_append, String.reduceToList, List.append_assoc, List.cons_append,
      List.nil_append]
  rw [lookup, htext, pairs_append, List.find?_append, Option.map_or, lookup, lookup]

/-- All that is read out of a header is plain. Semicolons are gone because pieces
    were cut there, blanks because they were trimmed, and an equals sign cannot
    stand in front of the first one. -/
theorem plain_of_mem_pairs {header : List Char} {pair : List Char × List Char}
    (h : pair ∈ pairs header) : Plain (String.ofList pair.1, String.ofList pair.2) := by
  rcases List.mem_filterMap.mp h with ⟨piece, hpiece, hsplit⟩
  rcases Text.splitFirst_eq_some.mp hsplit with ⟨htrim, hequals⟩
  have hsemi : ';' ∉ pair.1 ++ '=' :: pair.2 := by
    rw [← htrim]
    exact fun hmem => Text.not_mem_of_mem_fields hpiece (Text.mem_of_mem_trim hmem)
  rw [List.mem_append, List.mem_cons, not_or, not_or] at hsemi
  constructor
  · rw [String.toList_ofList]
    exact hsemi.1
  · rw [String.toList_ofList]
    exact hequals
  -- A name has a first character only if the trimmed piece begins with it.
  · rw [String.toList_ofList]
    intro c hc
    refine @Text.isBlank_of_head_trim piece c ?_
    rw [htrim, List.head?_append, Option.mem_def.mp hc]
    rfl
  · rw [String.toList_ofList]
    exact hsemi.2.2
  -- And a value has a last one only if the piece ends with it.
  · rw [String.toList_ofList]
    intro c hc
    refine @Text.isBlank_of_last_trimEnd (Text.trimStart piece) c ?_
    rw [← Text.trim, htrim, List.getLast?_append, List.getLast?_cons, Option.mem_def.mp hc]
    rfl

/-- What is found under a name makes a plain cookie with it. -/
theorem plain_of_lookup {header name value : String} (h : lookup header name = some value) :
    Plain (name, value) := by
  rcases Option.map_eq_some_iff.mp h with ⟨pair, hfind, rfl⟩
  have hplain := plain_of_mem_pairs (List.mem_of_find?_eq_some hfind)
  -- The pair was found because it has the name.
  have hname := List.find?_some hfind
  rw [beq_iff_eq] at hname
  rw [hname, String.ofList_toList] at hplain
  exact hplain

/-- What can be found at all are plain cookies. -/
theorem exists_lookup_iff_plain {name value : String} :
    (∃ header, lookup header name = some value) ↔ Plain (name, value) := by
  refine ⟨fun ⟨_, h⟩ => plain_of_lookup h, fun h => ⟨Jar.header [(name, value)], ?_⟩⟩
  -- The header of the cookie alone is one where it is found.
  rw [lookup_header (List.forall_mem_singleton.mpr h), List.find?_cons, beq_self_eq_true]
  rfl

/-- A look-up in two headers with a semicolon between them finds what it finds in
    the first, or else in the second. In a header that was written from plain
    cookies it finds the value of the first one of the name. And in any header
    whatsoever it finds no value with a semicolon or a blank at its end, and
    nothing at all under a name with a semicolon or an equals sign, or with a
    blank in front. -/
theorem lookup_reads_headers :
    (∀ front back name,
      lookup (front ++ ";" ++ back) name = (lookup front name).or (lookup back name)) ∧
    (∀ jar : Jar, (∀ cookie ∈ jar, Plain cookie) → ∀ name,
      lookup jar.header name = (jar.find? fun cookie => cookie.1 == name).map Prod.snd) ∧
    (∀ header name value, lookup header name = some value →
      ';' ∉ value.toList ∧ ∀ c ∈ value.toList.getLast?, Text.isBlank c = false) ∧
    ∀ header name, (';' ∈ name.toList ∨ '=' ∈ name.toList ∨
      ∃ c ∈ name.toList.head?, Text.isBlank c = true) → lookup header name = none := by
  refine ⟨lookup_append, fun jar h => lookup_header h, ?_, ?_⟩
  · intro header name value h
    have hplain := exists_lookup_iff_plain.mp ⟨header, h⟩
    exact ⟨hplain.value_semicolon, hplain.value_last⟩
  · intro header name hname
    refine Option.eq_none_iff_forall_ne_some.mpr ?_
    intro value h
    -- Whatever was found is plain, which the name is not.
    have hplain := exists_lookup_iff_plain.mp ⟨header, h⟩
    rcases hname with hsemi | hequals | ⟨c, hc, hblank⟩
    · exact hplain.name_semicolon hsemi
    · exact hplain.name_equals hequals
    · rw [hplain.name_head c hc] at hblank
      exact Bool.noConfusion hblank

/-- A header that starts with pieces which are no pairs, an empty name and a value
    that goes on behind an equals sign. -/
theorem lookup_reads_headers_untidy :
    let untidy := "theme;; =x;\u00a0a=1=2\t"
    let jar : Jar := [("a", "3"), ("b ", " y=z"), ("b ", "")]
    (∀ cookie ∈ jar, Plain cookie) ∧
      lookup (untidy ++ ";" ++ jar.header) "a" = some "1=2" ∧
      lookup (untidy ++ ";" ++ jar.header) "b " = some " y=z" ∧
      lookup (untidy ++ ";" ++ jar.header) "" = some "x" ∧
      lookup (untidy ++ ";" ++ jar.header) "a=1" = none := by
  intro untidy jar
  rcases lookup_reads_headers with ⟨happend, hjar, _, hnone⟩
  have hplain : ∀ cookie ∈ jar, Plain cookie := by
    intro cookie hc
    simp only [jar, List.mem_cons, List.not_mem_nil, or_false] at hc
    rcases hc with rfl | rfl | rfl <;> constructor <;> simp [Text.isBlank, Text.blankRanges]
  refine ⟨hplain, ?_, ?_, ?_, hnone _ _ (.inr (.inl (by decide)))⟩
  · rw [happend, hjar jar hplain]
    decide
  · rw [happend, hjar jar hplain]
    decide
  · rw [happend, hjar jar hplain]
    decide

end Cookie

end DashKit
