/-!
# Quoted Text

Strings and characters as they stand in a diagnostic: between quotes, with
the characters that would spoil the line escaped.

Five characters have short escapes. The quote is escaped only when it is the
one in use, so an apostrophe stands bare in a string and a double quote bare
in a character. The remaining control characters are written by code point.

## Main definitions

* `hexDigits`: A number in lower-case hexadecimal.
* `escaped`: One character as it stands between quotes.
* `quoted`, `quotedChar`: A string or a character with its quotes.
-/

namespace DashKit

namespace Text

/-- A number in base sixteen, lower case, without leading zeros. -/
def hexDigits (n : Nat) : List Char :=
  Nat.toDigits 16 n

/-- The control characters: those below the space, and from the delete
    character up to the no-break space. -/
def isControl (c : Char) : Bool :=
  c.toNat < 0x20 || (0x7F ≤ c.toNat && c.toNat < 0xA0)

/-- A character as it stands between two `quote` characters. -/
def escaped (quote : Char) (c : Char) : List Char :=
  if c = '\x00' then ['\\', '0']
  else if c = '\t' then ['\\', 't']
  else if c = '\n' then ['\\', 'n']
  else if c = '\r' then ['\\', 'r']
  else if c = '\\' then ['\\', '\\']
  else if c = quote then ['\\', quote]
  else if isControl c then
    ['\\', 'u', '\x7b'] ++ hexDigits c.toNat ++ ['\x7d']
  else [c]

/-- The string between double quotes. -/
def quoted (s : String) : String :=
  String.ofList ('"' :: s.toList.flatMap (escaped '"') ++ ['"'])

/-- The character between single quotes. -/
def quotedChar (c : Char) : String :=
  String.ofList ('\'' :: escaped '\'' c ++ ['\''])

end Text

end DashKit
