import DashKit.Text.Quoted
import DashKit.Json.Numeral

/-!
# Refused JSON

Why a JSON text is refused, and where.

Reading works on the text that is left, so a place in the text is known by
what stands after it: a `Spot` is a rest, together with the bytes of it that
had been looked at. It becomes a line and a column only at the very end, when
the whole text is at hand. Columns count bytes, because that is what an
editor that was handed the bytes can use.

Some causes are found only when a value is complete, and then the spot is not
theirs to name: a field that is missing is missed by the whole record. Such a
failure stays `loose` until the brackets around it are closed, and it is
placed behind them.

## Main definitions

* `Cause`: What was wrong.
* `Spot`, `Failure`: The place, known or still open.
* `Refusal`: What a caller is told.
* `Refusal.message`: The sentence, with the place at its end.
-/

namespace DashKit

namespace Json

/-- What stood where something else was expected. -/
inductive Found
  | null
  | truth (value : Bool)
  | number (value : Numeral)
  | text (value : String)
  | list
  | record

/-- The name of what was found. -/
def Found.message : Found → String
  | null => "null"
  | truth value => "boolean `" ++ toString value ++ "`"
  | number value =>
      (if value.isWhole then "integer `" else "floating point `") ++ value.text ++ "`"
  | text value => "string " ++ Text.quoted value
  | list => "sequence"
  | record => "map"

/-- What was wrong with a text. -/
inductive Cause
  | listEnded
  | recordEnded
  | textEnded
  | valueEnded
  | colonExpected
  | listSeparatorExpected
  | recordSeparatorExpected
  | wordExpected
  | valueExpected
  | badEscape
  | badNumber
  | numberTooLarge
  | controlCharacter
  | keyNotText
  | loneSurrogate
  | escapeCutShort
  | trailingComma
  | trailingCharacters
  | tooDeep
  | wrongType (found : Found) (expected : String)
  | wrongValue (found : Found) (expected : String)
  | wrongLength (length : Nat) (expected : String)
  | unknownMember (word : String) (members : List String)
  | repeatedField (name : String)
  | missingField (name : String)
  | noShape (name : String)

/-- A choice of words: both of two, or one of several. -/
def choice (words : List String) : String :=
  let marked := words.map fun word => "`" ++ word ++ "`"
  match marked with
  | [] => "there are no variants"
  | [one] => "expected " ++ one
  | [one, other] => "expected " ++ one ++ " or " ++ other
  | _ => "expected one of " ++ ", ".intercalate marked

/-- The sentence for a cause. -/
def Cause.message : Cause → String
  | listEnded => "EOF while parsing a list"
  | recordEnded => "EOF while parsing an object"
  | textEnded => "EOF while parsing a string"
  | valueEnded => "EOF while parsing a value"
  | colonExpected => "expected `:`"
  | listSeparatorExpected => "expected `,` or `]`"
  | recordSeparatorExpected => "expected `,` or `\x7d`"
  | wordExpected => "expected ident"
  | valueExpected => "expected value"
  | badEscape => "invalid escape"
  | badNumber => "invalid number"
  | numberTooLarge => "number out of range"
  | controlCharacter => "control character (\\u0000-\\u001F) found while parsing a string"
  | keyNotText => "key must be a string"
  | loneSurrogate => "lone leading surrogate in hex escape"
  | escapeCutShort => "unexpected end of hex escape"
  | trailingComma => "trailing comma"
  | trailingCharacters => "trailing characters"
  | tooDeep => "recursion limit exceeded"
  | wrongType found expected => "invalid type: " ++ found.message ++ ", expected " ++ expected
  | wrongValue found expected => "invalid value: " ++ found.message ++ ", expected " ++ expected
  | wrongLength length expected =>
      "invalid length " ++ toString length ++ ", expected " ++ expected
  | unknownMember word members =>
      "unknown variant `" ++ word ++ "`, " ++ choice members
  | repeatedField name => "duplicate field `" ++ name ++ "`"
  | missingField name => "missing field `" ++ name ++ "`"
  | noShape name => "data did not match any variant of untagged enum " ++ name

/-- A place in a text: what is left there, and how many bytes of it had been
    looked at. -/
structure Spot where
  rest : List Char
  ahead : Nat

/-- The place where a rest begins. -/
def Spot.before (rest : List Char) : Spot := ⟨rest, 0⟩

/-- The place one byte into a rest, or its end if nothing is left. -/
def Spot.after (rest : List Char) : Spot := ⟨rest, if rest.isEmpty then 0 else 1⟩

/-- A failed reading. -/
inductive Failure
  /-- The place is known. -/
  | placed (cause : Cause) (spot : Spot)
  /-- The place is behind the brackets around the rest. -/
  | loose (cause : Cause) (rest : List Char)

/-- The outcome of reading from a text: a value and what is left. -/
abbrev Outcome (α : Type) := Except Failure (α × List Char)

/-- A failure where a rest begins. -/
def failBefore {α : Type} (cause : Cause) (rest : List Char) : Except Failure α :=
  .error (.placed cause (.before rest))

/-- A failure one byte into a rest. -/
def failAfter {α : Type} (cause : Cause) (rest : List Char) : Except Failure α :=
  .error (.placed cause (.after rest))

/-- A line, counted from one, and a column in bytes. -/
structure Position where
  line : Nat
  column : Nat
  deriving DecidableEq, Repr

/-- The bytes of a text. -/
def utf8 (text : List Char) : List UInt8 :=
  text.flatMap String.utf8EncodeChar

/-- The position behind some bytes. -/
def Position.behind (bytes : List UInt8) : Position where
  line := bytes.count 10 + 1
  column := (bytes.reverse.takeWhile (· != 10)).length

/-- The position of a spot in the text it was found in. -/
def Spot.position (spot : Spot) (text : List Char) : Position :=
  let bytes := utf8 text
  Position.behind (bytes.take (bytes.length - (utf8 spot.rest).length + spot.ahead))

/-- What a caller is told about a text that was refused. -/
structure Refusal where
  cause : Cause
  position : Option Position

/-- What a failure tells about the text it was found in. -/
def Failure.refusal (failure : Failure) (text : List Char) : Refusal :=
  match failure with
  | placed cause spot => ⟨cause, some (spot.position text)⟩
  | loose cause _ => ⟨cause, none⟩

/-- The sentence, with the place at its end when there is one. -/
def Refusal.message (refusal : Refusal) : String :=
  refusal.cause.message ++
    match refusal.position with
    | none => ""
    | some p => " at line " ++ toString p.line ++ " column " ++ toString p.column

end Json

end DashKit
