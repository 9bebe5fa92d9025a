import DashKit.Domain.Mark

/-!
# Directions of Writing

Labels that can be read although scripts of both directions meet in a domain.

As soon as a domain has a letter that is written from right to left, each of
its labels has to have a direction of its own, which its first letter gives.
Then it contains only what does not change the direction, and at its end stands
a letter or a number, behind which there may be marks.

The tables are those of version 17 of Unicode, for the characters that a domain
keeps.

## Main definitions

* `Direction`: What a character does to the direction.
* `isReadable`: A label has one direction.
-/

namespace DashKit

namespace Domain

/-- What a character does to the direction of a text. -/
inductive Direction
  /-- A letter written from left to right. -/
  | left
  /-- A letter written from right to left. -/
  | right
  /-- A digit of a number as it is written in Arabic. -/
  | arabicNumber
  /-- A digit of a number as it is written in Europe. -/
  | europeanNumber
  /-- A mark, which follows its letter. -/
  | mark
  /-- Punctuation and symbols, which follow the text around them. -/
  | neutral
  deriving DecidableEq, Repr

/-- Letters written from right to left. -/
def rightTable : List String :=
  ["5BE 5C0 5C3 5C6 5D0-5F4 608 60B 60D 61B-64A 66D-66F 671-6D5 6E5-6E6 6EE-6EF 6FA-710 712-72F",
   "74D-7A5 7B1-7EA 7F4-7F5 7FA 7FE-815 81A 824 828 830-858 85E-88F 8A0-8C9 FBB2-FBD2 FD90-FDCE",
   "FE73 10800-1091B 10920-10A00 10A10-10A35 10A40-10AE4 10AEB-10B35 10B40-10D23 10D40-10D4F",
   "10D6E-10D8F 10E80-10EA9 10EAD-10ED8 10F00-10F45 10F51-10F81 10F86-10FF6 1E800-1E8CF",
   "1E922-1E943 1E94B-1ED3D"]

/-- The same as ranges. -/
def rightRanges : Text.Ranges := Text.Ranges.read rightTable

/-- Digits of numbers as they are written in Arabic, with their punctuation. -/
def arabicNumberTable : List String :=
  ["660-669 66B-66C 10D30-10D39 10E60-10E7E"]

/-- The same as ranges. -/
def arabicNumberRanges : Text.Ranges := Text.Ranges.read arabicNumberTable

/-- Digits of numbers as they are written in Europe. -/
def europeanNumberTable : List String :=
  ["30-39 6F0-6F9 102E1-102FB"]

/-- The same as ranges. -/
def europeanNumberRanges : Text.Ranges := Text.Ranges.read europeanNumberTable

/-- Punctuation and symbols. -/
def neutralTable : List String :=
  ["21-2F 3A-40 5B-60 7B-7E A1-D7 F7 2B9-2BA 2C2-2CF 2D2-2ED 2EF-2FF 375 3F6 58A-58F 606-607",
   "609-60A 60C 60E-60F 66A 6DE 6E9 7F6-7F9 9F2-9F3 9FB AF1 BF3-BFA C78-C7E E3F F3A-F3D",
   "1390-1399 1400 169B-169C 17DB 17F0-180A 1940-1945 19DE-19FF 200C-20C1 2104-214D 218A-2335",
   "237B-2394 2396-26AB 26AD-27FF 2900-2BFF 2CE5-2CEA 2CF9-2CFF 2E00-3004 3008-3020 3030 3037",
   "303D-303F 30A0 30FB 31C0-31E5 4DC0-4DFF A490-A4C6 A60D-A60F A673 A67E-A67F A700-A721 A788",
   "A828-A82B A838-A839 A874-A877 AB6A-AB6B FD3E-FD4F FDCF-FDFF FE45-FE46 10101 10140-1018C",
   "10190-101A0 1091F 10B39-10B3F 11052-11065 11660-1166C 11FD5-11FF1 16FE2 1CC00-1CEF0",
   "1D1E9-1D241 1D245 1D300-1D356 1E2FF 1EEF0-1F12F 1F16D-1F16F 1F1AD 1F260-1FBFA"]

/-- The same as ranges. -/
def neutralRanges : Text.Ranges := Text.Ranges.read neutralTable

/-- Nonspacing marks that count as letters. -/
def letterMarks : List Nat := [0xCBF, 0xCC6, 0x11A07, 0x11A08, 0x11C3F]

/-- What a character does to the direction of a text. -/
def Direction.of (c : Char) : Direction :=
  if rightRanges.has c then right
  else if arabicNumberRanges.has c then arabicNumber
  else if europeanNumberRanges.has c then europeanNumber
  else if neutralRanges.has c then neutral
  else if isNonspacing c && !letterMarks.contains c.toNat then mark
  else left

/-- A character that is never written from left to right. -/
def Direction.isFromRight (d : Direction) : Bool :=
  d == .right || d == .arabicNumber

/-- What a label from left to right contains. -/
def Direction.fitsLeft (d : Direction) : Bool :=
  d == .left || d == .europeanNumber || d == .mark || d == .neutral

/-- What a label from right to left contains. -/
def Direction.fitsRight (d : Direction) : Bool :=
  d != .left

/-- The label ends in one of these, up to the marks at its end. -/
def endsIn (ends : List Direction) (ds : List Direction) : Bool :=
  (ds.reverse.dropWhile (· == .mark)).head?.any ends.contains

/-- A label has one direction. The two kinds of numbers do not meet in it. -/
def isReadable (ds : List Direction) : Bool :=
  match ds with
  | [] => true
  | .left :: _ => ds.all Direction.fitsLeft && endsIn [.left, .europeanNumber] ds
  | .right :: _ =>
      ds.all Direction.fitsRight && endsIn [.right, .arabicNumber, .europeanNumber] ds
        && !(ds.contains .arabicNumber && ds.contains .europeanNumber)
  | _ => false

end Domain

end DashKit
