import DashKit.Json.Value

/-!
# JSON Texts by Their Grammar

Values as they are written, with everything a reader has to cope with: blanks
between any two tokens, escapes that nobody needed, numbers with a point or an
exponent, keys that occur twice.

A `Value` has one text, the one that is written. A `Form` is the text together
with the way it is derived in the grammar of RFC 8259, so the texts of all
forms are the texts of that grammar, and a statement about all of them is one
by induction on forms. What the grammar asks of a part is kept with the part:
a gap is blank, digits are digits and there are some, a number starts with a
zero only if that is all there is before the point.

Escapes are a matter of code units. Two units may be the halves of one
character, and a half that stands alone is well formed although it spells no
character. `spelling?` is where the difference shows.

## Main definitions

* `Gap`, `Piece`, `Digits`, `NumberForm`: Blanks, the characters of a string as
  they are written, and numbers.
* `Form`, `Form.text`: A value as it is written.
* `spelling?`, `Form.Spells`: The characters that a string spells.
* `NumberForm.literal`: The parts of a number.

## Theorems

* `Form.induction`: Induction over what stands in brackets.
-/

namespace DashKit

namespace Json

/-- Blanks between two tokens. -/
structure Gap where
  chars : List Char
  blank : ∀ c ∈ chars, isGap c = true

/-- A character of a string as it is written. -/
inductive Piece
  /-- The character itself. -/
  | plain (c : Char) (h : ' ' ≤ c ∧ c ≠ '"' ∧ c ≠ '\\')
  /-- An escape of one letter. -/
  | short (letter c : Char) (h : shortEscape? letter = some c)
  /-- A code unit by its four digits. -/
  | unit (digits : List Char) (n : Nat) (h : hex4? digits = some (n, []))

/-- One or more digits. -/
structure Digits where
  chars : List Char
  filled : chars ≠ []
  digits : ∀ c ∈ chars, c.isDigit = true

/-- An exponent: its letter, its sign and its digits. -/
structure ExponentForm where
  letter : Char
  isLetter : letter = 'e' ∨ letter = 'E'
  /-- Whether the sign is a minus, if there is a sign. -/
  minus : Option Bool
  digits : Digits

/-- A number as it is written. -/
structure NumberForm where
  isNegative : Bool
  integer : Digits
  fraction : Option Digits
  exponent : Option ExponentForm
  /-- Digits that start with a zero are only the zero. -/
  proper : integer.chars.head? = some '0' → integer.chars = ['0']

/-- An item of a list with the blanks around it. -/
structure Item (τ : Type) where
  before : Gap
  value : τ
  after : Gap

/-- An entry of a record with the blanks around its tokens. -/
structure Entry (τ : Type) where
  before : Gap
  key : List Piece
  behindKey : Gap
  beforeValue : Gap
  value : τ
  after : Gap

/-- A value as it is written, from its first token to its last. -/
inductive Form
  | null
  | truth (value : Bool)
  | number (token : NumberForm)
  | quoted (pieces : List Piece)
  | list (opening : Gap) (items : List (Item Form))
  | record (opening : Gap) (entries : List (Entry Form))

/-- The text of a character of a string. -/
def Piece.text : Piece → List Char
  | plain c _ => [c]
  | short letter _ _ => ['\\', letter]
  | unit digits _ _ => '\\' :: 'u' :: digits

/-- A string with its quotes. -/
def quotedText (pieces : List Piece) : List Char :=
  '"' :: (pieces.flatMap Piece.text ++ ['"'])

/-- The characters that a string spells. A half of a character that stands
    alone spells none. -/
def spelling? : List Piece → Option (List Char)
  | [] => some []
  | .plain c _ :: pieces => (spelling? pieces).map (c :: ·)
  | .short _ c _ :: pieces => (spelling? pieces).map (c :: ·)
  | .unit _ n _ :: pieces =>
      if isLowHalf n then none
      else if isHighHalf n then
        match pieces with
        | .unit _ m _ :: pieces =>
            if isLowHalf m then (spelling? pieces).map (joinHalves n m :: ·) else none
        | _ => none
      else (spelling? pieces).map (Char.ofNat n :: ·)

/-- A form is a string that spells a text. -/
def Form.Spells (form : Form) (text : String) : Prop :=
  ∃ pieces, form = .quoted pieces ∧ spelling? pieces = some text.toList

namespace NumberForm

/-- The text of a fraction, if there is one. -/
def fractionText : Option Digits → List Char
  | none => []
  | some digits => '.' :: digits.chars

/-- The text of the sign of an exponent, if there is one. -/
def signText : Option Bool → List Char
  | none => []
  | some false => ['+']
  | some true => ['-']

/-- The text of an exponent, if there is one. -/
def exponentText : Option ExponentForm → List Char
  | none => []
  | some exponent => exponent.letter :: (signText exponent.minus ++ exponent.digits.chars)

/-- The text of a number behind its sign. -/
def unsigned (number : NumberForm) : List Char :=
  number.integer.chars ++ (fractionText number.fraction ++ exponentText number.exponent)

/-- The text of a number. -/
def text (number : NumberForm) : List Char :=
  if number.isNegative then '-' :: number.unsigned else number.unsigned

/-- The parts of a number. -/
def literal (number : NumberForm) : Literal where
  isNegative := number.isNegative
  integer := number.integer.chars
  fraction := number.fraction.map Digits.chars
  exponent := number.exponent.map fun exponent =>
    (exponent.minus == some true, exponent.digits.chars)

end NumberForm

namespace Form

mutual

/-- A value as text. -/
def text : Form → List Char
  | null => ['n', 'u', 'l', 'l']
  | truth true => ['t', 'r', 'u', 'e']
  | truth false => ['f', 'a', 'l', 's', 'e']
  | number token => token.text
  | quoted pieces => quotedText pieces
  | list opening items =>
      '[' :: (opening.chars ++ (Value.separated (itemTexts items) ++ [listEnd]))
  | record opening entries =>
      '\x7b' :: (opening.chars ++ (Value.separated (entryTexts entries) ++ [recordEnd]))

/-- The items of a list, each as text. -/
def itemTexts : List (Item Form) → List (List Char)
  | [] => []
  | item :: items => itemText item :: itemTexts items

/-- An item as text, with the blanks around it. -/
def itemText : Item Form → List Char
  | ⟨before, value, after⟩ => before.chars ++ (value.text ++ after.chars)

/-- The entries of a record, each as text. -/
def entryTexts : List (Entry Form) → List (List Char)
  | [] => []
  | entry :: entries => entryText entry :: entryTexts entries

/-- An entry as text, with the blanks around its tokens. -/
def entryText : Entry Form → List Char
  | ⟨before, key, behindKey, beforeValue, value, after⟩ =>
      before.chars ++ (quotedText key ++ (behindKey.chars ++
        ':' :: (beforeValue.chars ++ (value.text ++ after.chars))))

end

theorem itemTexts_eq_map (items : List (Item Form)) : itemTexts items = items.map itemText := by
  induction items with
  | nil => rfl
  | cons item items ih => rw [itemTexts, ih, List.map_cons]

theorem entryTexts_eq_map (entries : List (Entry Form)) :
    entryTexts entries = entries.map entryText := by
  induction entries with
  | nil => rfl
  | cons entry entries ih => rw [entryTexts, ih, List.map_cons]

/-- What holds of plain values, and of brackets if it holds of what stands in
    them, holds of all. -/
@[elab_as_elim]
theorem induction {motive : Form → Prop} (null : motive null)
    (truth : ∀ value, motive (truth value)) (number : ∀ token, motive (number token))
    (quoted : ∀ pieces, motive (quoted pieces))
    (list : ∀ opening items, (∀ item ∈ items, motive item.value) → motive (list opening items))
    (record : ∀ opening entries, (∀ entry ∈ entries, motive entry.value) →
      motive (record opening entries)) : ∀ form, motive form
  | .null => null
  | .truth value => truth value
  | .number token => number token
  | .quoted pieces => quoted pieces
  | .list opening items =>
      list opening items fun item _ => induction null truth number quoted list record item.value
  | .record opening entries =>
      record opening entries fun entry _ =>
        induction null truth number quoted list record entry.value
  termination_by form => sizeOf form
  decreasing_by
    -- An item is smaller than its list, and its value smaller than the item.
    · next hitem =>
        have hsize := List.sizeOf_lt_of_mem hitem
        have hvalue : sizeOf item.value < sizeOf item := by
          cases item
          simp only [Item.mk.sizeOf_spec]
          omega
        simp only [Form.list.sizeOf_spec]
        omega
    · next hentry =>
        have hsize := List.sizeOf_lt_of_mem hentry
        have hvalue : sizeOf entry.value < sizeOf entry := by
          cases entry
          simp only [Entry.mk.sizeOf_spec]
          omega
        simp only [Form.record.sizeOf_spec]
        omega

end Form

end Json

end DashKit
