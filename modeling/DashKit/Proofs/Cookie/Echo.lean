import DashKit.Proofs.Cookie.Header
import Mathlib.Data.List.TakeWhile

/-!
# Writes Read Back

What is left of a cookie when its write is read like a header.

The text of a write has no quoting. It looks the way it does so that a browser
can tell the value from the attributes behind it, and a header reader goes by the
same semicolons: to it a write is a header of three cookies, the last two of them
named `path` and `max-age`. A value that was written comes back up to its first
semicolon and without the blanks it ends with. Nothing else about it matters, not
even an equals sign.

What stands behind a semicolon inside the value becomes a cookie of its own. It
cannot get in front of the name that was written, so for that name the first pair
settles the look-up whatever follows. The attributes are found by their names only
if neither the value nor the path brings in further pieces, and if the cookie is
not called like one of them.

## Main definitions

* `Cookie.remnant`: What comes back of a value.

## Theorems

* `Cookie.text_eq_header`: A write is spelled like a header of three cookies.
* `Cookie.pairs_text`: Its first pair is the name with what is left of the value.
* `Cookie.remnant_eq_self`: The values that come back as they are.
* `Cookie.text_read_back`: What look-ups find in the text of a write.
-/

namespace DashKit

namespace Text

/-- Up to its first separator a text is what it is before any separator that is
    put behind it. -/
theorem exists_takeWhile_append (sep : Char) (s tail : List Char) :
    ∃ more, s ++ sep :: tail = (s.takeWhile fun c => c != sep) ++ sep :: more := by
  induction s with
  | nil => exact ⟨tail, rfl⟩
  | cons c s ih =>
      by_cases h : c = sep
      · exact ⟨s ++ sep :: tail, by simp [h]⟩
      · rcases ih with ⟨more, hmore⟩
        exact ⟨more, by simp [h, hmore]⟩

theorem not_mem_takeWhile (sep : Char) (s : List Char) :
    sep ∉ s.takeWhile fun c => c != sep := by
  intro h
  have hne := List.mem_takeWhile_imp h
  rw [bne_self_eq_false] at hne
  exact Bool.noConfusion hne

theorem takeWhile_eq_self {sep : Char} {s : List Char} (h : sep ∉ s) :
    (s.takeWhile fun c => c != sep) = s :=
  List.takeWhile_eq_self_iff.mpr (bne_of_not_mem h)

end Text

namespace Cookie

/-- What comes back of a value: the text before its first semicolon, without the
    blanks at its end. -/
def remnant (value : String) : String :=
  String.ofList (Text.trimEnd (value.toList.takeWhile fun c => c != ';'))

/-- The values that come back as they are. -/
theorem remnant_eq_self {value : String} :
    remnant value = value ↔
      ';' ∉ value.toList ∧ ∀ c ∈ value.toList.getLast?, Text.isBlank c = false := by
  rw [remnant, ← String.toList_inj, String.toList_ofList]
  constructor
  · intro h
    refine ⟨?_, ?_⟩
    -- What comes back has neither, so a value that comes back whole has neither.
    · intro hsemi
      rw [← h] at hsemi
      exact Text.not_mem_takeWhile ';' _ (Text.mem_of_mem_trimEnd hsemi)
    · intro c hc
      rw [← h] at hc
      exact Text.isBlank_of_last_trimEnd hc
  · rintro ⟨hsemi, hlast⟩
    rw [Text.takeWhile_eq_self hsemi, Text.trimEnd_eq_self.mpr hlast]

/-- A write is spelled like a header of three cookies. -/
theorem text_eq_header (cookie : Cookie) :
    cookie.text = Jar.header [(cookie.name, cookie.value), ("path", cookie.path),
      ("max-age", toString cookie.maxAge.toNat)] := by
  rw [← String.toList_inj]
  simp [text, Jar.header, Jar.piece, String.intercalate_cons_cons]

/-- The first pair of a write is its name with what is left of the value, whatever
    the value brings in behind it. -/
theorem pairs_text {cookie : Cookie} (hsemi : ';' ∉ cookie.name.toList)
    (hequals : '=' ∉ cookie.name.toList)
    (hhead : ∀ c ∈ cookie.name.toList.head?, Text.isBlank c = false) :
    ∃ others, pairs cookie.text.toList =
      (cookie.name.toList, (remnant cookie.value).toList) :: others := by
  let front := cookie.value.toList.takeWhile fun c => c != ';'
  let behind := [' '] ++ (Jar.header
    [("path", cookie.path), ("max-age", toString cookie.maxAge.toNat)]).toList
  have hfront : Delimited (cookie.name, String.ofList front) := by
    refine ⟨hsemi, hequals, hhead, ?_⟩
    rw [String.toList_ofList]
    exact Text.not_mem_takeWhile ';' _
  -- The value is cut where a semicolon first stands, its own or the one behind it.
  rcases Text.exists_takeWhile_append ';' cookie.value.toList behind with ⟨more, hmore⟩
  have htext : cookie.text.toList =
      (Jar.piece (cookie.name, String.ofList front)).toList ++ ';' :: more :=
    calc cookie.text.toList
      _ = cookie.name.toList ++ '=' :: (cookie.value.toList ++ ';' :: behind) := by
        rw [text_eq_header, toList_header_cons, toList_piece, List.append_assoc]
        rfl
      _ = cookie.name.toList ++ '=' :: (front ++ ';' :: more) := by
        rw [hmore]
      _ = (Jar.piece (cookie.name, String.ofList front)).toList ++ ';' :: more := by
        rw [toList_piece, String.toList_ofList, List.append_assoc]
        rfl
  -- Up to there it is one pair, whatever follows.
  have hpair := @pairs_piece _ hfront [] fun _ h => absurd h List.not_mem_nil
  rw [List.nil_append, String.toList_ofList] at hpair
  refine ⟨pairs more, ?_⟩
  rw [htext, pairs_append, hpair, remnant, String.toList_ofList]
  rfl

theorem isDigit_of_mem_toString {n : Nat} {c : Char} (h : c ∈ (toString n).toList) :
    c.isDigit = true := by
  have hdigits : (toString n).toList = Nat.toDigits 10 n := Nat.toList_repr
  rw [hdigits] at h
  exact Nat.isDigit_of_mem_toDigits (by decide) (by decide) h

/-- The decimal text of a number is plain under the name of an attribute. -/
theorem plain_maxAge (n : Nat) : Plain ("max-age", toString n) where
  name_semicolon := show ';' ∉ "max-age".toList by decide
  name_equals := show '=' ∉ "max-age".toList by decide
  name_head := by simp [Text.isBlank, Text.blankRanges]
  value_semicolon h := absurd (isDigit_of_mem_toString h) (by decide)
  value_last _ hc := Text.isBlank_of_isDigit (isDigit_of_mem_toString (List.mem_of_getLast? hc))

theorem delimited_path {path : String} (h : ';' ∉ path.toList) : Delimited ("path", path) where
  name_semicolon := show ';' ∉ "path".toList by decide
  name_equals := show '=' ∉ "path".toList by decide
  name_head := by simp [Text.isBlank, Text.blankRanges]
  value_semicolon := h

/-- In the text of a write its name finds the value up to the first semicolon and
    without the blanks at the end, which is the value itself exactly if it has
    neither. Between a value and a path without semicolons the attributes are found
    as well, unless the cookie is called like one of them. -/
theorem text_read_back (cookie : Cookie) (hsemi : ';' ∉ cookie.name.toList)
    (hequals : '=' ∉ cookie.name.toList)
    (hhead : ∀ c ∈ cookie.name.toList.head?, Text.isBlank c = false) :
    lookup cookie.text cookie.name = some (remnant cookie.value) ∧
      (lookup cookie.text cookie.name = some cookie.value ↔
        ';' ∉ cookie.value.toList ∧
          ∀ c ∈ cookie.value.toList.getLast?, Text.isBlank c = false) ∧
      (';' ∉ cookie.value.toList → ';' ∉ cookie.path.toList →
        cookie.name ≠ "path" → cookie.name ≠ "max-age" →
          lookup cookie.text "path" = some (String.ofList (Text.trimEnd cookie.path.toList)) ∧
            lookup cookie.text "max-age" = some (toString cookie.maxAge.toNat)) := by
  -- The first pair settles the look-up, whatever the value brought in behind it.
  have hname : lookup cookie.text cookie.name = some (remnant cookie.value) := by
    rcases pairs_text hsemi hequals hhead with ⟨others, hpairs⟩
    rw [lookup, hpairs, List.find?_cons, beq_self_eq_true]
    simp only [Option.map_some, String.ofList_toList]
  refine ⟨hname, ?_, ?_⟩
  · rw [hname, Option.some_inj]
    exact remnant_eq_self
  · intro hvalue hpath hnotPath hnotAge
    have hage := plain_maxAge cookie.maxAge.toNat
    -- With no semicolon in value and path the text is a header of three cookies.
    have hjar : ∀ other ∈ [(cookie.name, cookie.value), ("path", cookie.path),
        ("max-age", toString cookie.maxAge.toNat)], Delimited other := by
      simp only [List.forall_mem_cons]
      exact ⟨⟨hsemi, hequals, hhead, hvalue⟩, delimited_path hpath, hage.delimited,
        fun _ h => absurd h List.not_mem_nil⟩
    rw [text_eq_header, lookup_header_trimmed hjar, lookup_header_trimmed hjar]
    constructor
    · rw [List.find?_cons_of_neg (by simpa using hnotPath), List.find?_cons_of_pos rfl]
      rfl
    · rw [List.find?_cons_of_neg (by simpa using hnotAge), List.find?_cons_of_neg (by simp),
        List.find?_cons_of_pos rfl, Option.map_some, Text.trimEnd_eq_self.mpr hage.value_last,
        String.ofList_toList]

/-- A value that tries to bring in attributes of its own is cut off, and one that
    ends with a no-break space loses it. -/
theorem text_read_back_cut :
    let injected : Cookie := ⟨"state", "a=b \t;max-age=0", "/", 604800⟩
    let padded : Cookie := ⟨"state", " x\u00a0", "/app ", 60⟩
    lookup injected.text "state" = some "a=b" ∧
      lookup padded.text "state" = some " x" ∧ lookup padded.text "state" ≠ some padded.value ∧
      lookup padded.text "path" = some "/app" ∧ lookup padded.text "max-age" = some "60" := by
  intro injected padded
  have hhead : ∀ c ∈ "state".toList.head?, Text.isBlank c = false := by
    simp [Text.isBlank, Text.blankRanges]
  rcases text_read_back injected (by decide) (by decide) hhead with ⟨hinjected, _⟩
  rcases text_read_back padded (by decide) (by decide) hhead with ⟨hpadded, hself, hattributes⟩
  rcases hattributes (by decide) (by decide) (by decide) (by decide) with ⟨hpath, hage⟩
  refine ⟨hinjected.trans (by decide), hpadded.trans (by decide), ?_,
    hpath.trans (by decide), hage.trans (by decide)⟩
  intro h
  exact absurd ((hself.mp h).2 '\u00a0' (by decide)) (by decide)

end Cookie

end DashKit
