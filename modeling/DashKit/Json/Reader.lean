import DashKit.Json.Literal
import DashKit.Json.Text

/-!
# JSON Readers

Readers of single values, each knowing what it expects.

A `Reader` takes one value off the front of a text. It carries the law that a
value has at least one character, which is what lets lists and records of
unknown length be read by recursion: every round leaves less text. Blanks in
front of a value belong to it, blanks behind do not.

When a value is not of the kind that was expected, its kind is named in the
complaint. To name it, the value is read as far as that takes, so text that is
no value at all is complained about as such; only brackets are left alone.

Brackets are counted. A reader of something in brackets is given the number
of brackets that may still be entered and hands one less to its parts.

## Main definitions

* `Reader`: A reader of one value, with its law.
* `Reader.truth`, `Reader.text`, `Reader.char`, `Reader.word32`: Readers of
  plain values.
* `Reader.optional`: A value, or nothing for `null`.
* `Reader.member`: One of several words.
* `reject`: The complaint about a value of the wrong kind.

## Theorems

* `scanNumber_length`: A number takes at least one character.
* `reject_ne_ok`: A rejected value is never read.
-/

namespace DashKit

namespace Json

/-- The characters that may stand between the tokens of a text. -/
def isGap (c : Char) : Bool :=
  c == ' ' || c == '\n' || c == '\t' || c == '\r'

/-- A text from its first token on. -/
def afterGap (s : List Char) : List Char :=
  s.dropWhile isGap

/-- A gap only takes from the text. -/
theorem afterGap_length (s : List Char) : (afterGap s).length ≤ s.length :=
  (List.dropWhile_suffix isGap).length_le

/-- The remaining letters of a word that stands for a value. -/
def scanWord : List Char → List Char → Except Failure (List Char)
  | [], s => .ok s
  | _ :: _, [] => failBefore .valueEnded []
  | x :: xs, c :: r => if c = x then scanWord xs r else failAfter .wordExpected (c :: r)

/-- Letters are taken off the text. -/
theorem scanWord_length {letters s rest : List Char} (h : scanWord letters s = .ok rest) :
    rest.length ≤ s.length := by
  induction letters generalizing s with
  | nil =>
      simp only [scanWord, Except.ok.injEq] at h
      simp [h]
  | cons x xs ih =>
      cases s with
      | nil => simp [scanWord, failBefore] at h
      | cons c r =>
          simp only [scanWord] at h
          split at h
          · exact Nat.le_succ_of_le (ih h)
          · simp [failAfter] at h

/-- A value once the letters of its word were seen. -/
def scanKeyword {α : Type} (letters : String) (value : α) (s : List Char) : Outcome α :=
  match scanWord letters.toList s with
  | .error e => .error e
  | .ok rest => .ok (value, rest)

/-- A keyword only takes from the text. -/
theorem scanKeyword_length {α : Type} {letters : String} {value a : α} {s rest : List Char}
    (h : scanKeyword letters value s = .ok (a, rest)) : rest.length ≤ s.length := by
  unfold scanKeyword at h
  split at h
  · simp at h
  · next hw =>
      simp only [Except.ok.injEq, Prod.mk.injEq] at h
      rw [← h.2]
      exact scanWord_length hw

/-- The number whose literal starts here, behind its sign. -/
def scanUnsigned (isNegative : Bool) (s : List Char) : Outcome Numeral :=
  match Literal.scan .valueEnded isNegative s with
  | .error e => .error e
  | .ok (literal, rest) =>
      match literal.value rest with
      | .error e => .error e
      | .ok n => .ok (n, rest)

/-- The number whose literal starts here. -/
def scanNumber : List Char → Outcome Numeral
  | '-' :: r => scanUnsigned true r
  | s => scanUnsigned false s

/-- A number takes at least one character. -/
theorem scanNumber_length {s rest : List Char} {n : Numeral}
    (h : scanNumber s = .ok (n, rest)) : rest.length < s.length := by
  have unsigned : ∀ {minus : Bool} {t : List Char},
      scanUnsigned minus t = .ok (n, rest) → rest.length < t.length := by
    intro minus t ht
    unfold scanUnsigned at ht
    split at ht
    · simp at ht
    · next l r hl =>
        split at ht
        · simp at ht
        · simp only [Except.ok.injEq, Prod.mk.injEq] at ht
          rw [← ht.2]
          exact Literal.scan_length hl
  unfold scanNumber at h
  split at h
  · exact Nat.lt_succ_of_lt (unsigned h)
  · exact unsigned h

/-- A character that a number can start with. -/
def startsNumber (c : Char) : Bool :=
  c == '-' || c.isDigit

/-- What kind of value starts here. It is taken off the text, unless it is in
    brackets. -/
def scanFound : List Char → Outcome Found
  | [] => failAfter .valueEnded []
  | c :: r =>
      if c = 'n' then scanKeyword "ull" .null r
      else if c = 't' then scanKeyword "rue" (.truth true) r
      else if c = 'f' then scanKeyword "alse" (.truth false) r
      else if startsNumber c then
        match scanNumber (c :: r) with
        | .error e => .error e
        | .ok (n, rest) => .ok (.number n, rest)
      else if c = '"' then
        match scanText true r with
        | .error e => .error e
        | .ok (text, rest) => .ok (.text (String.ofList text), rest)
      else if c = '[' then .ok (.list, c :: r)
      else if c = '\x7b' then .ok (.record, c :: r)
      else failAfter .valueExpected (c :: r)

/-- The complaint about a value that is not of the kind expected. -/
def reject {α : Type} (expected : String) (s : List Char) : Except Failure α :=
  match scanFound s with
  | .error e => .error e
  | .ok (found, rest) => failBefore (.wrongType found expected) rest

/-- A rejected value is never read. -/
theorem reject_ne_ok {α : Type} (expected : String) (s : List Char) (a : α) :
    reject expected s ≠ .ok a := by
  unfold reject
  split <;> simp [failBefore]

/-- A reader of one value at the front of a text. -/
structure Reader (α : Type) where
  run : List Char → Outcome α
  /-- A value has at least one character. -/
  shrinks : ∀ {s a rest}, run s = .ok (a, rest) → rest.length < s.length

namespace Reader

variable {α β : Type}

/-- A reader of values that start with the first character behind the gap. -/
def ofStart (body : Char → List Char → Outcome α)
    (law : ∀ {c r a rest}, body c r = .ok (a, rest) → rest.length ≤ r.length) : Reader α where
  run s :=
    match afterGap s with
    | [] => failAfter .valueEnded []
    | c :: r => body c r
  shrinks := by
    intro s a rest h
    have hs := afterGap_length s
    split at h
    · simp [failAfter] at h
    · next c r hg =>
        rw [hg, List.length_cons] at hs
        have := law h
        omega

/-- A function applied to what is read. -/
def map (f : α → β) (reader : Reader α) : Reader β where
  run s :=
    match reader.run s with
    | .error e => .error e
    | .ok (a, rest) => .ok (f a, rest)
  shrinks := by
    intro s b rest h
    split at h
    · simp at h
    · next a r hr =>
        simp only [Except.ok.injEq, Prod.mk.injEq] at h
        rw [← h.2]
        exact reader.shrinks hr

/-- What is read, if `accept` takes it. A cause it answers with instead is
    loose: it is about the value as a whole. -/
def sift (reader : Reader α) (accept : α → Except Cause β) : Reader β where
  run s :=
    match reader.run s with
    | .error e => .error e
    | .ok (a, rest) =>
        match accept a with
        | .error cause => .error (.loose cause rest)
        | .ok b => .ok (b, rest)
  shrinks := by
    intro s b rest h
    split at h
    · simp at h
    · next a r hr =>
        split at h
        · simp at h
        · simp only [Except.ok.injEq, Prod.mk.injEq] at h
          rw [← h.2]
          exact reader.shrinks hr

/-- One of the words `true` and `false`. -/
def truth : Reader Bool :=
  ofStart
    (fun c r =>
      if c = 't' then scanKeyword "rue" true r
      else if c = 'f' then scanKeyword "alse" false r
      else reject "a boolean" (c :: r))
    (by
      intro c r a rest h
      split at h
      · exact scanKeyword_length h
      · split at h
        · exact scanKeyword_length h
        · exact absurd h (reject_ne_ok _ _ _))

/-- The word `null`. -/
def unit : Reader Unit :=
  ofStart
    (fun c r => if c = 'n' then scanKeyword "ull" () r else reject "unit" (c :: r))
    (by
      intro c r a rest h
      split at h
      · exact scanKeyword_length h
      · exact absurd h (reject_ne_ok _ _ _))

/-- A string that passes `accept`, which answers with a value or a cause. -/
def quoted (expected : String) (accept : String → Except Cause α) : Reader α :=
  ofStart
    (fun c r =>
      if c = '"' then
        match scanText true r with
        | .error e => .error e
        | .ok (text, rest) =>
            match accept (String.ofList text) with
            | .error cause => failBefore cause rest
            | .ok a => .ok (a, rest)
      else reject expected (c :: r))
    (by
      intro c r a rest h
      split at h
      · split at h
        · simp at h
        · next ht =>
            split at h
            · simp [failBefore] at h
            · simp only [Except.ok.injEq, Prod.mk.injEq] at h
              rw [← h.2]
              exact Nat.le_of_lt (scanText_length ht)
      · exact absurd h (reject_ne_ok _ _ _))

/-- Any string. -/
def text : Reader String :=
  quoted "a string" .ok

/-- A string of one character. -/
def char : Reader Char :=
  quoted "a character" fun text =>
    match text.toList with
    | [c] => .ok c
    | _ => .error (.wrongValue (.text text) "a character")

/-- A natural number below `2 ^ 32`, without a fraction or an exponent. -/
def word32 : Reader UInt32 :=
  ofStart
    (fun c r =>
      if startsNumber c then
        match scanNumber (c :: r) with
        | .error e => .error e
        | .ok (.natural n, rest) =>
            if n < UInt32.size then .ok (n.toUInt32, rest)
            else failBefore (.wrongValue (.number (.natural n)) "u32") rest
        | .ok (.negative n, rest) =>
            failBefore (.wrongValue (.number (.negative n)) "u32") rest
        | .ok (.real x, rest) =>
            failBefore (.wrongType (.number (.real x)) "u32") rest
      else reject "u32" (c :: r))
    (by
      intro c r a rest h
      split at h
      · split at h
        · simp at h
        · next n r' hn =>
            have hl := scanNumber_length hn
            split at h
            · simp only [Except.ok.injEq, Prod.mk.injEq] at h
              rw [← h.2]
              exact Nat.le_of_lt_succ hl
            · simp [failBefore] at h
        · simp [failBefore] at h
        · simp [failBefore] at h
      · exact absurd h (reject_ne_ok _ _ _))

/-- Nothing for `null`, and a value for all else. -/
def optional (reader : Reader α) : Reader (Option α) where
  run s :=
    match afterGap s with
    | 'n' :: r => scanKeyword "ull" none r
    | t => (reader.map some).run t
  shrinks := by
    intro s a rest h
    have hs := afterGap_length s
    split at h
    · next r hg =>
        have := scanKeyword_length h
        rw [hg, List.length_cons] at hs
        omega
    · have := (reader.map some).shrinks h
      omega

end Reader

/-- Something in brackets, if one more bracket may be entered. The text starts
    with the bracket. -/
def within {α : Type} (depth : Nat) (s : List Char) (read : Nat → Outcome α) : Outcome α :=
  match depth with
  | 0 => failAfter .tooDeep s
  | d + 1 => read d

/-- The colon between a key and its value. -/
def scanColon (s : List Char) : Except Failure (List Char) :=
  match afterGap s with
  | [] => failAfter .recordEnded []
  | ':' :: r => .ok r
  | t => failAfter .colonExpected t

/-- A colon is taken off the text. -/
theorem scanColon_length {s rest : List Char} (h : scanColon s = .ok rest) :
    rest.length < s.length := by
  unfold scanColon at h
  have hs := afterGap_length s
  split at h
  · simp [failAfter] at h
  · next r hg =>
      simp only [Except.ok.injEq] at h
      rw [hg, List.length_cons, h] at hs
      omega
  · simp [failAfter] at h

/-- The word that a string spells, if it is one of those that are known. -/
def scanMember {α : Type} (members : List (String × α)) (r : List Char) : Outcome α :=
  match scanText true r with
  | .error e => .error e
  | .ok (text, rest) =>
      let word := String.ofList text
      match members.find? fun member => member.1 == word with
      | some member => .ok (member.2, rest)
      | none => failBefore (.unknownMember word (members.map Prod.fst)) rest

/-- A word only takes from the text. -/
theorem scanMember_length {α : Type} {members : List (String × α)} {r rest : List Char}
    {a : α} (h : scanMember members r = .ok (a, rest)) : rest.length ≤ r.length := by
  unfold scanMember at h
  split at h
  · simp at h
  · next ht =>
      dsimp only at h
      split at h
      · simp only [Except.ok.injEq, Prod.mk.injEq] at h
        rw [← h.2]
        exact Nat.le_of_lt (scanText_length ht)
      · simp [failBefore] at h

/-- What follows the word when it is the only key of a record: a colon, the
    word `null`, and the end of the record. -/
def scanNothing {α : Type} (value : α) (s : List Char) : Outcome α :=
  match scanColon s with
  | .error e => .error e
  | .ok s =>
      match Reader.unit.run s with
      | .error e => .error e
      | .ok ((), s) =>
          -- The bracket is not a closing step: its complaints stand in front of it.
          match afterGap s with
          | [] => failBefore .recordEnded []
          | '\x7d' :: r => .ok (value, r)
          | t => failBefore .valueExpected t

/-- What follows a word only takes from the text. -/
theorem scanNothing_length {α : Type} {value a : α} {s rest : List Char}
    (h : scanNothing value s = .ok (a, rest)) : rest.length ≤ s.length := by
  unfold scanNothing at h
  split at h
  · simp at h
  · next s1 h1 =>
      split at h
      · simp at h
      · next s2 h2 =>
          have l1 := scanColon_length h1
          have l2 := Reader.unit.shrinks h2
          have l3 := afterGap_length s2
          split at h
          · simp [failBefore] at h
          · next r hg =>
              simp only [Except.ok.injEq, Prod.mk.injEq] at h
              rw [hg, List.length_cons, h.2] at l3
              omega
          · simp [failBefore] at h

/-- A record whose only key is one of the words and whose value is `null`. -/
def scanTagged {α : Type} (members : List (String × α)) (r : List Char) : Outcome α :=
  match afterGap r with
  | [] => failAfter .recordEnded []
  | '\x7d' :: t => failAfter .valueExpected ('\x7d' :: t)
  | '"' :: t =>
      match scanMember members t with
      | .error e => .error e
      | .ok (a, s) => scanNothing a s
  | t => failAfter .keyNotText t

/-- A tagged word only takes from the text. -/
theorem scanTagged_length {α : Type} {members : List (String × α)} {r rest : List Char}
    {a : α} (h : scanTagged members r = .ok (a, rest)) : rest.length ≤ r.length := by
  unfold scanTagged at h
  have hs := afterGap_length r
  split at h
  · simp [failAfter] at h
  · simp [failAfter] at h
  · next t hg =>
      split at h
      · simp at h
      · next s hm =>
          have l1 := scanMember_length hm
          have l2 := scanNothing_length h
          rw [hg, List.length_cons] at hs
          omega
  · simp [failAfter] at h

/-- One of several words, either as a string or as the only key of a record
    that holds nothing. -/
def Reader.member {α : Type} (depth : Nat) (members : List (String × α)) : Reader α :=
  ofStart
    (fun c r =>
      if c = '"' then scanMember members r
      else if c = '\x7b' then within depth (c :: r) fun _ => scanTagged members r
      else failAfter .valueExpected (c :: r))
    (by
      intro c r a rest h
      split at h
      · exact scanMember_length h
      · split at h
        · cases depth with
          | zero => simp [within, failAfter] at h
          | succ d => exact scanTagged_length h
        · simp [failAfter] at h)

/-- The value of a whole text. Only a gap may follow it. -/
def Reader.readAll {α : Type} (reader : Reader α) (s : List Char) : Except Failure α :=
  match reader.run s with
  | .error e => .error e
  | .ok (a, rest) =>
      match afterGap rest with
      | [] => .ok a
      | t => failAfter .trailingCharacters t

end Json

end DashKit
