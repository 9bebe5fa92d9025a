import DashKit.Proofs.Cookie.Header
import DashKit.Proofs.Sidebar.Persistence

/-!
# Sidebars Across Visits

A flag that was saved into the cookies of a browser comes back on the next
visit, whatever other cookies there are.

What a browser does with a write is an assumption, and `Jar.Stored` states it
as a relation: the text before the first semicolon is cut at its first equals
sign, any cookie of that name goes, and the new one stands wherever the
browser puts it among the others. Which place that is may change from one
write to the next.

The sidebars of a visit run over any storage at all. Only the record of its
calls matters, because every save in it is handed to the browser as a cookie.
So the argument has two halves that meet in that record: the sidebars save the
words of the flags they leave, under the one key, and the browser ends up with
the other cookies as they were and one cookie of that key with the last word.

## Main definitions

* `Jar.entry`: The name and the value that a browser takes from a write.
* `Jar.Stored`, `Jar.Kept`: What one write and several do to a jar.
* `Call.cookie?`, `Group.cookies`: The cookies that a record of calls hands over.
* `Jar.Around`: A jar that holds one more cookie than another.

## Theorems

* `entry_lasting`: A browser takes the name and the value of a write.
* `stored_around`: A write replaces a cookie and moves no other.
* `cookies_run`: A visit hands over the words of the flags that it saves.
* `kept_around`: The last flag that was saved is in the jar.
* `revisit`: The next visit starts from it, and other look-ups are unchanged.
-/

namespace DashKit

namespace Jar

/-- The name and the value that a browser takes from a write: what stands
    before its first semicolon, cut at the first equals sign. -/
def entry (text : String) : String × String :=
  let pair := text.toList.takeWhile fun c => c != ';'
  (String.ofList (pair.takeWhile fun c => c != '='),
    String.ofList ((pair.dropWhile fun c => c != '=').drop 1))

/-- A browser stores a write: the cookie of that name goes, and the new one
    may stand anywhere among the others. -/
inductive Stored (text : String) (before : Jar) : Jar → Prop
  | mk (left right : Jar)
      (h : left ++ right = before.filter fun cookie => cookie.1 != (entry text).1) :
      Stored text before (left ++ entry text :: right)

/-- A browser stores several writes, one after the other. -/
inductive Kept : List Cookie → Jar → Jar → Prop
  | nil (jar : Jar) : Kept [] jar jar
  | cons {cookie : Cookie} {cookies : List Cookie} {before between after : Jar}
      (hfirst : Stored cookie.text before between) (hrest : Kept cookies between after) :
      Kept (cookie :: cookies) before after

/-- A jar that holds the cookies of another and one more. -/
inductive Around (cookie : String × String) (others : Jar) : Jar → Prop
  | mk (left right : Jar) (h : left ++ right = others) :
      Around cookie others (left ++ cookie :: right)

/-- What a browser takes from a write are its name and its value, if neither
    spoils the text. -/
theorem entry_lasting {name value : String} (hn : ';' ∉ name.toList) (he : '=' ∉ name.toList)
    (hv : ';' ∉ value.toList) : entry (Cookie.lasting name value).text = (name, value) := by
  have hequals := Text.bne_of_not_mem he
  -- Behind the value comes the semicolon of the path.
  have htext : (Cookie.lasting name value).text.toList =
      (name.toList ++ '=' :: value.toList) ++ ';' :: (" path=" ++ Cookie.sidebarPath
        ++ "; max-age=" ++ toString Cookie.sidebarMaxAge.toNat).toList := by
    simp [Cookie.text, Cookie.lasting]
  have hpair : ';' ∉ name.toList ++ '=' :: value.toList := by
    rw [List.mem_append, List.mem_cons, not_or, not_or]
    exact ⟨hn, by decide, hv⟩
  -- The browser cuts at that semicolon, and then at the first equals sign.
  have htake : (Cookie.lasting name value).text.toList.takeWhile (fun c => c != ';') =
      name.toList ++ '=' :: value.toList := by
    rw [htext, List.takeWhile_append_of_pos (Text.bne_of_not_mem hpair), List.takeWhile_cons]
    exact List.append_nil _
  rw [entry, htake, List.takeWhile_append_of_pos hequals, List.dropWhile_append_of_pos hequals]
  simp

/-- A cookie that stands among others is the first of its name if no other has
    that name, and is passed over for any other name. -/
theorem find?_around {cookie : String × String} {others jar : Jar} (h : Around cookie others jar)
    (hother : ∀ other ∈ others, other.1 ≠ cookie.1) (name : String) :
    (jar.find? fun c => c.1 == name) =
      if cookie.1 = name then some cookie else others.find? fun c => c.1 == name := by
  cases h with
  | mk left right h =>
      subst h
      by_cases hn : cookie.1 = name
      -- None of those in front of it has its name.
      · have hleft : (left.find? fun c => c.1 == name) = none := by
          refine List.find?_eq_none.mpr (fun c hc => ?_)
          rw [beq_iff_eq, ← hn]
          exact hother c (List.mem_append_left _ hc)
        rw [if_pos hn, List.find?_append, hleft, Option.none_or, List.find?_cons,
          beq_iff_eq.mpr hn]
      · rw [if_neg hn, List.find?_append, List.find?_append, List.find?_cons,
          beq_eq_false_iff_ne.mpr hn]

/-- Storing a write takes the cookie of its name out, and moves none of the
    others. -/
theorem stored_around {text : String} {others before after : Jar}
    (hs : Stored text before after) (hother : ∀ other ∈ others, other.1 ≠ (entry text).1)
    (hb : before = others ∨ ∃ value, Around ((entry text).1, value) others before) :
    Around (entry text) others after := by
  -- The others have other names, so taking a cookie of this name out leaves them all.
  have hkept : others.filter (fun cookie => cookie.1 != (entry text).1) = others := by
    refine List.filter_eq_self.mpr ?_
    intro other ho
    rw [bne_iff_ne]
    exact hother other ho
  cases hs with
  | mk left right h =>
      refine .mk left right (h.trans ?_)
      rcases hb with rfl | ⟨value, hb⟩
      · exact hkept
      · cases hb with
        | mk l r hlr =>
            rw [List.filter_append, List.filter_cons, bne_self_eq_false]
            rw [← hlr, List.filter_append] at hkept
            rw [← hlr]
            exact hkept

end Jar

/-- The cookie that a call hands to the browser, if it is a save. -/
def Call.cookie? : Call → Option Cookie
  | .load _ _ => none
  | .save key value => some (Cookie.lasting key value)

namespace Group

variable {σ : Type} (storage : Storage σ)

/-- The same group at the start of a record. -/
def recorded (group : Group σ) : Group (σ × List Call) :=
  ⟨group.sidebars, group.world, []⟩

/-- The cookies that the calls of a record hand to the browser, in order. -/
def cookies (group : Group (σ × List Call)) : List Cookie :=
  group.world.2.filterMap Call.cookie?

/-- A move hands over the word of the flag it saves, and nothing else. -/
theorem cookies_step {move : Move} (hown : move.isOwn = true) (group : Group (σ × List Call)) :
    (step storage.recorded move group).2.cookies =
      group.cookies ++ (persisted? move group).toList.map fun flag =>
        Cookie.lasting Sidebar.storageKey (Flag.word flag) := by
  rcases step_world storage.recorded hown group with ⟨flag, hp, hw⟩ | ⟨hp, hw | hw⟩
  -- The record has a save, a load, or nothing more than before.
  · rw [cookies, hw, hp, Storage.recorded, List.filterMap_append]
    rfl
  · rw [cookies, hw, hp, Storage.recorded, List.filterMap_append]
    rfl
  · rw [cookies, hw, hp, Option.toList_none, List.map_nil, List.append_nil, cookies]

/-- A visit hands over the words of the flags it saves, in order. -/
theorem cookies_run {moves : List Move} (hown : ∀ move ∈ moves, move.isOwn = true)
    (group : Group (σ × List Call)) :
    (run storage.recorded moves group).cookies =
      group.cookies ++ (persisted storage.recorded moves group).map fun flag =>
        Cookie.lasting Sidebar.storageKey (Flag.word flag) := by
  induction moves generalizing group with
  | nil => exact (List.append_nil _).symm
  | cons move moves ih =>
      have hrest := fun other ho => hown other (List.mem_cons_of_mem _ ho)
      -- What the first move hands over comes first, and then what the others do.
      have hstep := cookies_step storage (hown move List.mem_cons_self) group
      rw [persisted, List.map_append, ← List.append_assoc, ← hstep]
      exact ih hrest _

end Group

namespace Jar

/-- The word of a flag spoils no cookie. -/
theorem plain_word (flag : Bool) : Cookie.Plain (Sidebar.storageKey, Flag.word flag) := by
  cases flag <;> constructor <;>
    simp [Text.isBlank, Text.blankRanges, Sidebar.storageKey, Cookie.sidebarName, Flag.word]

theorem entry_word (flag : Bool) :
    entry (Cookie.lasting Sidebar.storageKey (Flag.word flag)).text =
      (Sidebar.storageKey, Flag.word flag) :=
  entry_lasting (plain_word flag).name_semicolon (plain_word flag).name_equals
    (plain_word flag).value_semicolon

/-- Storing the word of a flag puts it anywhere among the cookies of other
    names. -/
theorem stored_word (flag : Bool) {before : Jar} (left right : Jar)
    (h : left ++ right = before.filter fun cookie => cookie.1 != Sidebar.storageKey) :
    Stored (Cookie.lasting Sidebar.storageKey (Flag.word flag)).text before
      (left ++ (Sidebar.storageKey, Flag.word flag) :: right) := by
  rw [← entry_word flag]
  refine .mk left right ?_
  rw [entry_word]
  exact h

/-- After the words of some flags were stored, the last of them is the one
    cookie that came to the others. -/
theorem kept_around {others before after : Jar} {flags : List Bool} {last : Bool}
    (hother : ∀ other ∈ others, other.1 ≠ Sidebar.storageKey)
    (hk : Kept (flags.map fun flag => Cookie.lasting Sidebar.storageKey (Flag.word flag))
      before after) (hlast : flags.getLast? = some last)
    (hb : before = others ∨ ∃ value, Around (Sidebar.storageKey, value) others before) :
    Around (Sidebar.storageKey, Flag.word last) others after := by
  induction flags generalizing before with
  | nil => simp only [List.getLast?_nil, reduceCtorEq] at hlast
  | cons flag flags ih =>
      cases hk with
      | cons hfirst hrest =>
          have hbetween := stored_around hfirst (by rw [entry_word]; exact hother)
            (by rw [entry_word]; exact hb)
          rw [entry_word] at hbetween
          cases flags with
          -- This was the last write of the visit.
          | nil =>
              rw [List.getLast?_singleton, Option.some_inj] at hlast
              subst hlast
              cases hrest
              exact hbetween
          -- The next write replaces this one.
          | cons next flags =>
              rw [List.getLast?_cons_cons] at hlast
              exact ih hrest hlast (Or.inr ⟨_, hbetween⟩)

/-- A jar that came out of plain cookies and one more is plain. -/
theorem Around.plain {cookie : String × String} {others jar : Jar} (h : Around cookie others jar)
    (hc : Cookie.Plain cookie) (ho : ∀ other ∈ others, Cookie.Plain other) :
    ∀ other ∈ jar, Cookie.Plain other := by
  cases h with
  | mk left right h =>
      subst h
      intro other hm
      rcases List.mem_append.mp hm with hm | hm
      · exact ho other (List.mem_append_left _ hm)
      · rcases List.mem_cons.mp hm with rfl | hm
        · exact hc
        · exact ho other (List.mem_append_right _ hm)

end Jar

namespace Group

variable {σ : Type}

/-- A mounted sidebar is open as the cookie says, if it spells a flag. -/
theorem isOpen_mounted_cookies {header : String} {flag : Bool}
    (h : Cookie.lookup header Sidebar.storageKey = some (Flag.word flag))
    (options : SidebarOptions) (width : Option Float) (writes : List Cookie) :
    (Sidebar.mounted Storage.cookies options width ⟨header, writes⟩).1.isOpen = flag := by
  have hrestore : Sidebar.storedOpen options (Cookie.lookup header Sidebar.storageKey) = flag := by
    rw [Sidebar.storedOpen, h, Option.bind_some, Flag.parse?_eq_some.mpr rfl, Option.getD_some]
  cases width <;> exact hrestore

/-- Sidebars run over any storage, and a browser keeps what they save among
    cookies that are none of theirs. If anything was saved, a sidebar that is
    mounted over the header of the next visit is open as the last flag that was
    saved says, whatever its options, and every other look-up in the header has
    the answer it had before the run. -/
theorem revisit (storage : Storage σ) (group : Group σ) (moves : List Move) (before after : Jar)
    (flag : Bool) (hown : ∀ move ∈ moves, move.isOwn = true)
    (hplain : ∀ cookie ∈ before, Cookie.Plain cookie ∧ cookie.1 ≠ Sidebar.storageKey)
    (hkept : Jar.Kept (run storage.recorded moves group.recorded).cookies before after)
    (hlast : (persisted storage.recorded moves group.recorded).getLast? = some flag) :
    (∀ (options : SidebarOptions) (width : Option Float) (writes : List Cookie),
      (Sidebar.mounted Storage.cookies options width ⟨after.header, writes⟩).1.isOpen = flag) ∧
    ∀ name, name ≠ Sidebar.storageKey →
      Cookie.lookup after.header name = Cookie.lookup before.header name := by
  have hbefore : ∀ cookie ∈ before, Cookie.Plain cookie := fun cookie hc => (hplain cookie hc).1
  have hother : ∀ cookie ∈ before, cookie.1 ≠ Sidebar.storageKey :=
    fun cookie hc => (hplain cookie hc).2
  -- What was handed over are words of flags, and the browser has stored them in order.
  rw [cookies_run storage hown] at hkept
  have haround := Jar.kept_around hother hkept hlast (Or.inl rfl)
  -- All that is in the jar of the next visit is plain, so its header is read back.
  have hafter := haround.plain (Jar.plain_word flag) hbefore
  refine ⟨?_, ?_⟩
  · intro options width writes
    refine isOpen_mounted_cookies ?_ options width writes
    rw [Cookie.lookup_header hafter, Jar.find?_around haround hother, if_pos rfl, Option.map_some]
  · intro name hn
    rw [Cookie.lookup_header hafter, Jar.find?_around haround hother, if_neg (Ne.symm hn),
      Cookie.lookup_header hbefore]

/-- A theme and a cookie that only looks like the sidebar's stay where they
    are while two flips are stored between and behind them. -/
theorem revisit_twice :
    let group : Group CookieDocument := ⟨[Sidebar.fresh {}], ⟨"theme=dark; sidebar_state2=a=b", []⟩⟩
    let moves : List Move := [.act 0 .toggle, .copy 0, .act 1 .toggle]
    let before : Jar := [("theme", "dark"), ("sidebar_state2", "a=b")]
    let after : Jar := before ++ [("sidebar_state", "true")]
    (∀ move ∈ moves, move.isOwn = true) ∧
      (∀ cookie ∈ before, Cookie.Plain cookie ∧ cookie.1 ≠ Sidebar.storageKey) ∧
      Jar.Kept (run Storage.cookies.recorded moves group.recorded).cookies before after ∧
      (persisted Storage.cookies.recorded moves group.recorded).getLast? = some true ∧
      (Sidebar.mounted Storage.cookies { startsOpen := false } none ⟨after.header, []⟩).1.isOpen =
        true ∧
      Cookie.lookup after.header "sidebar_state2" =
        Cookie.lookup before.header "sidebar_state2" := by
  intro group moves before after
  have hown : ∀ move ∈ moves, move.isOwn = true := by decide
  have hplain : ∀ cookie ∈ before, Cookie.Plain cookie ∧ cookie.1 ≠ Sidebar.storageKey := by
    intro cookie hc
    simp only [before, List.mem_cons, List.not_mem_nil, or_false] at hc
    rcases hc with rfl | rfl <;>
      exact ⟨by constructor <;> simp [Text.isBlank, Text.blankRanges], by decide⟩
  have hlast : (persisted Storage.cookies.recorded moves group.recorded).getLast? = some true := rfl
  have hcookies : (run Storage.cookies.recorded moves group.recorded).cookies =
      [false, true].map fun flag => Cookie.lasting Sidebar.storageKey (Flag.word flag) := rfl
  have hkept :
      Jar.Kept (run Storage.cookies.recorded moves group.recorded).cookies before after := by
    rw [hcookies]
    exact .cons (Jar.stored_word false [("theme", "dark")] [("sidebar_state2", "a=b")] (by decide))
      (.cons (Jar.stored_word true before [] (by decide)) (.nil _))
  have h := revisit Storage.cookies group moves before after true hown hplain hkept hlast
  exact ⟨hown, hplain, hkept, hlast, h.1 _ _ _, h.2 _ (by decide)⟩

end Group

end DashKit
