import DashKit.Json.Bracketed

/-!
# JSON Values

Any JSON value as a tree, for text whose shape is not known beforehand and
for text that is to be written.

The entries of a record keep their order, and a key may occur more than once:
what to make of that is for whoever asked for the value.

Reading is by recursion on the number of brackets that may still be entered,
so the reader for one depth is built over the reader for the next.

## Main definitions

* `Value`: The tree.
* `Value.write`: The tree as text without gaps.
* `Value.reader`: The reader of any value.
-/

namespace DashKit

namespace Json

/-- Any JSON value. -/
inductive Value
  | null
  | truth (value : Bool)
  | number (value : Numeral)
  | text (value : String)
  | list (items : List Value)
  | record (members : List (String × Value))

namespace Value

/-- Written parts with a comma between each two. -/
def separated : List (List Char) → List Char
  | [] => []
  | [one] => one
  | one :: others => one ++ ',' :: separated others

mutual

/-- A value as text without gaps. -/
def write : Value → List Char
  | null => ['n', 'u', 'l', 'l']
  | truth true => ['t', 'r', 'u', 'e']
  | truth false => ['f', 'a', 'l', 's', 'e']
  | number n => n.text.toList
  | text s => writeText s.toList
  | list items => '[' :: separated (writeItems items) ++ [listEnd]
  | record members => '\x7b' :: separated (writeMembers members) ++ [recordEnd]

/-- The items of a list, each as text. -/
def writeItems : List Value → List (List Char)
  | [] => []
  | item :: items => write item :: writeItems items

/-- The entries of a record, each as text. -/
def writeMembers : List (String × Value) → List (List Char)
  | [] => []
  | member :: members => writeMember member :: writeMembers members

/-- A key, a colon and a value. -/
def writeMember : String × Value → List Char
  | (key, value) => writeText key.toList ++ ':' :: write value

end

/-- The reader of any value, given the reader of what is in brackets if one
    more may be entered. -/
def readerOver (inner : Option (Reader Value)) : Reader Value :=
  .ofStart
    (fun c r =>
      if c = 'n' then scanKeyword "ull" null r
      else if c = 't' then scanKeyword "rue" (truth true) r
      else if c = 'f' then scanKeyword "alse" (truth false) r
      else if startsNumber c then
        match scanNumber (c :: r) with
        | .error e => .error e
        | .ok (n, rest) => .ok (number n, rest)
      else if c = '"' then
        match scanText true r with
        | .error e => .error e
        | .ok (s, rest) => .ok (text (String.ofList s), rest)
      else if c = '[' then
        match inner with
        | none => failAfter .tooDeep (c :: r)
        | some reader =>
            match enclosed closeList (scanItems reader true r) with
            | .error e => .error e
            | .ok (items, rest) => .ok (list items, rest)
      else if c = '\x7b' then
        match inner with
        | none => failAfter .tooDeep (c :: r)
        | some reader =>
            let pick (_ : List (String × Value)) (key : String) :=
              .ok (reader.map fun value members => members ++ [(key, value)])
            match enclosed closeRecord (scanEntries pick true [] r) with
            | .error e => .error e
            | .ok (members, rest) => .ok (record members, rest)
      else failAfter .valueExpected (c :: r))
    (by
      intro c r a rest h
      split at h
      · exact scanKeyword_length h
      split at h
      · exact scanKeyword_length h
      split at h
      · exact scanKeyword_length h
      split at h
      · split at h
        · simp at h
        · next hn =>
            simp only [Except.ok.injEq, Prod.mk.injEq] at h
            rw [← h.2]
            exact Nat.le_of_lt_succ (scanNumber_length hn)
      split at h
      · split at h
        · simp at h
        · next ht =>
            simp only [Except.ok.injEq, Prod.mk.injEq] at h
            rw [← h.2]
            exact Nat.le_of_lt (scanText_length ht)
      split at h
      · split at h
        · simp [failAfter] at h
        · split at h
          · simp at h
          · next he =>
              simp only [Except.ok.injEq, Prod.mk.injEq] at h
              rw [← h.2]
              exact Nat.le_of_lt (enclosed_length closeList_length scanItems_length he)
      split at h
      · split at h
        · simp [failAfter] at h
        · dsimp only at h
          split at h
          · simp at h
          · next he =>
              simp only [Except.ok.injEq, Prod.mk.injEq] at h
              rw [← h.2]
              exact Nat.le_of_lt (enclosed_length closeRecord_length scanEntries_length he)
      · simp [failAfter] at h)

/-- The reader of any value that enters at most `depth` brackets. -/
def reader : Nat → Reader Value
  | 0 => readerOver none
  | depth + 1 => readerOver (some (reader depth))

end Value

end Json

end DashKit
