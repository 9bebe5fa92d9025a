import DashKit.Domain.Mark

/-!
# Composed Characters

The one spelling of a text among those that mean the same.

A letter with marks can be written as one character or as a letter and its
marks. In the normal form every character is taken apart, marks are sorted, and
what can be one character is put together again, from the left.

The syllables of Hangul are composed by arithmetic. The other compositions are
those of version 17 of Unicode, for the characters that a domain keeps.

## Main definitions

* `parts?`, `compose?`: A character and its two parts.
* `normalForm`: The one spelling of a text.
-/

namespace DashKit

namespace Domain

/-- Characters that are put together, by their second part: the first part and
    the whole. -/
def compositionTable : List String :=
  ["300: 61=E0 65=E8 69=EC 6F=F2 75=F9 FC=1DC 6E=1F9 435=450 438=45D 113=1E15 14D=1E51 77=1E81",
   "E2=1EA7 103=1EB1 EA=1EC1 F4=1ED3 1A1=1EDD 1B0=1EEB 79=1EF3 1F00=1F02 1F01=1F03 1F10=1F12",
   "1F11=1F13 1F20=1F22 1F21=1F23 1F30=1F32 1F31=1F33 1F40=1F42 1F41=1F43 1F50=1F52 1F51=1F53",
   "1F60=1F62 1F61=1F63 3B1=1F70 3B5=1F72 3B7=1F74 3B9=1F76 3BF=1F78 3C5=1F7A 3C9=1F7C 3CA=1FD2",
   "3CB=1FE2 301: 61=E1 65=E9 69=ED 6F=F3 75=FA 79=FD 63=107 6C=13A 6E=144 72=155 73=15B 7A=17A",
   "FC=1D8 67=1F5 E5=1FB E6=1FD F8=1FF 3CA=390 3B1=3AC 3B5=3AD 3B7=3AE 3B9=3AF 3CB=3B0 3BF=3CC",
   "3C5=3CD 3C9=3CE 433=453 43A=45C E7=1E09 113=1E17 EF=1E2F 6B=1E31 6D=1E3F F5=1E4D 14D=1E53",
   "70=1E55 169=1E79 77=1E83 E2=1EA5 103=1EAF EA=1EBF F4=1ED1 1A1=1EDB 1B0=1EE9 1F00=1F04",
   "1F01=1F05 1F10=1F14 1F11=1F15 1F20=1F24 1F21=1F25 1F30=1F34 1F31=1F35 1F40=1F44 1F41=1F45",
   "1F50=1F54 1F51=1F55 1F60=1F64 1F61=1F65 302: 61=E2 65=EA 69=EE 6F=F4 75=FB 63=109 67=11D",
   "68=125 6A=135 73=15D 77=175 79=177 7A=1E91 1EA1=1EAD 1EB9=1EC7 1ECD=1ED9 303: 61=E3 6E=F1",
   "6F=F5 69=129 75=169 76=1E7D E2=1EAB 103=1EB5 65=1EBD EA=1EC5 F4=1ED7 1A1=1EE1 1B0=1EEF",
   "79=1EF9 304: 61=101 65=113 69=12B 6F=14D 75=16B FC=1D6 E4=1DF 227=1E1 E6=1E3 1EB=1ED F6=22B",
   "F5=22D 22F=231 79=233 438=4E3 443=4EF 67=1E21 1E37=1E39 1E5B=1E5D 3B1=1FB1 3B9=1FD1 3C5=1FE1",
   "306: 61=103 65=115 67=11F 69=12D 6F=14F 75=16D 438=439 443=45E 436=4C2 430=4D1 435=4D7",
   "229=1E1D 1EA1=1EB7 3B1=1FB0 3B9=1FD0 3C5=1FE0 307: 63=10B 65=117 67=121 7A=17C 61=227 6F=22F",
   "62=1E03 64=1E0B 66=1E1F 68=1E23 6D=1E41 6E=1E45 70=1E57 72=1E59 73=1E61 15B=1E65 161=1E67",
   "1E63=1E69 74=1E6B 77=1E87 78=1E8B 79=1E8F 105D2=105C9 105DA=105E4 308: 61=E4 65=EB 69=EF",
   "6F=F6 75=FC 79=FF 3B9=3CA 3C5=3CB 435=451 456=457 430=4D3 4D9=4DB 436=4DD 437=4DF 438=4E5",
   "43E=4E7 4E9=4EB 44D=4ED 443=4F1 447=4F5 44B=4F9 68=1E27 F5=1E4F 16B=1E7B 77=1E85 78=1E8D",
   "74=1E97 309: 61=1EA3 E2=1EA9 103=1EB3 65=1EBB EA=1EC3 69=1EC9 6F=1ECF F4=1ED5 1A1=1EDF",
   "75=1EE7 1B0=1EED 79=1EF7 30A: 61=E5 75=16F 77=1E98 79=1E99 30B: 6F=151 75=171 443=4F3 30C:",
   "63=10D 64=10F 65=11B 6C=13E 6E=148 72=159 73=161 74=165 7A=17E 61=1CE 69=1D0 6F=1D2 75=1D4",
   "FC=1DA 67=1E7 6B=1E9 292=1EF 6A=1F0 68=21F 30F: 61=201 65=205 69=209 6F=20D 72=211 75=215",
   "475=477 311: 61=203 65=207 69=20B 6F=20F 72=213 75=217 313: 3B1=1F00 3B5=1F10 3B7=1F20",
   "3B9=1F30 3BF=1F40 3C5=1F50 3C9=1F60 3C1=1FE4 314: 3B1=1F01 3B5=1F11 3B7=1F21 3B9=1F31",
   "3BF=1F41 3C5=1F51 3C9=1F61 3C1=1FE5 31B: 6F=1A1 75=1B0 323: 62=1E05 64=1E0D 68=1E25 6B=1E33",
   "6C=1E37 6D=1E43 6E=1E47 72=1E5B 73=1E63 74=1E6D 76=1E7F 77=1E89 7A=1E93 61=1EA1 65=1EB9",
   "69=1ECB 6F=1ECD 1A1=1EE3 75=1EE5 1B0=1EF1 79=1EF5 324: 75=1E73 325: 61=1E01 326: 73=219",
   "74=21B 327: 63=E7 67=123 6B=137 6C=13C 6E=146 72=157 73=15F 74=163 65=229 64=1E11 68=1E29",
   "328: 61=105 65=119 69=12F 75=173 6F=1EB 32D: 64=1E13 65=1E19 6C=1E3D 6E=1E4B 74=1E71 75=1E77",
   "32E: 68=1E2B 330: 65=1E1B 69=1E2D 75=1E75 331: 62=1E07 64=1E0F 6B=1E35 6C=1E3B 6E=1E49",
   "72=1E5F 74=1E6F 7A=1E95 68=1E96 338: 2190=219A 2192=219B 2194=21AE 21D0=21CD 21D4=21CE",
   "21D2=21CF 2203=2204 2208=2209 220B=220C 2223=2224 2225=2226 223C=2241 2243=2244 2245=2247",
   "2248=2249 3D=2260 2261=2262 224D=226D 3C=226E 3E=226F 2264=2270 2265=2271 2272=2274",
   "2273=2275 2276=2278 2277=2279 227A=2280 227B=2281 2282=2284 2283=2285 2286=2288 2287=2289",
   "22A2=22AC 22A8=22AD 22A9=22AE 22AB=22AF 227C=22E0 227D=22E1 2291=22E2 2292=22E3 22B2=22EA",
   "22B3=22EB 22B4=22EC 22B5=22ED 342: 1F00=1F06 1F01=1F07 1F20=1F26 1F21=1F27 1F30=1F36",
   "1F31=1F37 1F50=1F56 1F51=1F57 1F60=1F66 1F61=1F67 3B1=1FB6 3B7=1FC6 3B9=1FD6 3CA=1FD7",
   "3C5=1FE6 3CB=1FE7 3C9=1FF6 653: 627=622 654: 627=623 648=624 64A=626 6D5=6C0 6C1=6C2 6D2=6D3",
   "655: 627=625 93C: 928=929 930=931 933=934 9BE: 9C7=9CB 9D7: 9C7=9CC B3E: B47=B4B B56:",
   "B47=B48 B57: B47=B4C BBE: BC6=BCA BC7=BCB BD7: B92=B94 BC6=BCC C56: C46=C48 CC2: CC6=CCA",
   "CD5: CBF=CC0 CC6=CC7 CCA=CCB CD6: CC6=CC8 D3E: D46=D4A D47=D4B D57: D46=D4C DCA: DD9=DDA",
   "DDC=DDD DCF: DD9=DDC DDF: DD9=DDE 102E: 1025=1026 1B35: 1B05=1B06 1B07=1B08 1B09=1B0A",
   "1B0B=1B0C 1B0D=1B0E 1B11=1B12 1B3A=1B3B 1B3C=1B3D 1B3E=1B40 1B3F=1B41 1B42=1B43 3099:",
   "304B=304C 304D=304E 304F=3050 3051=3052 3053=3054 3055=3056 3057=3058 3059=305A 305B=305C",
   "305D=305E 305F=3060 3061=3062 3064=3065 3066=3067 3068=3069 306F=3070 3072=3073 3075=3076",
   "3078=3079 307B=307C 3046=3094 309D=309E 30AB=30AC 30AD=30AE 30AF=30B0 30B1=30B2 30B3=30B4",
   "30B5=30B6 30B7=30B8 30B9=30BA 30BB=30BC 30BD=30BE 30BF=30C0 30C1=30C2 30C4=30C5 30C6=30C7",
   "30C8=30C9 30CF=30D0 30D2=30D3 30D5=30D6 30D8=30D9 30DB=30DC 30A6=30F4 30EF=30F7 30F0=30F8",
   "30F1=30F9 30F2=30FA 30FD=30FE 309A: 306F=3071 3072=3074 3075=3077 3078=307A 307B=307D",
   "30CF=30D1 30D2=30D4 30D5=30D7 30D8=30DA 30DB=30DD 110BA: 11099=1109A 1109B=1109C 110A5=110AB",
   "11127: 11131=1112E 11132=1112F 1133E: 11347=1134B 11357: 11347=1134C 113B8: 113C2=113C7",
   "113BB: 11384=11385 113C2: 1138B=1138E 113C2=113C5 113C9: 11382=11383 11390=11391 113C2=113C8",
   "114B0: 114B9=114BC 114BA: 114B9=114BB 114BD: 114B9=114BE 115AF: 115B8=115BA 115B9=115BB",
   "11930: 11935=11938 1611E: 1611E=16121 1611F: 1611E=16123 16129=16124 16121=16126 16122=16127",
   "16120: 1611E=16125 16121=16128 16129: 1611E=16122 16D67: 16D67=16D68 16D63=16D69 16D69=16D6A"]

/-- A character that is put together from two. -/
structure Composition where
  first : Nat
  second : Nat
  whole : Nat

/-- The characters that are put together from two. -/
def compositions : List Composition :=
  (Text.headed compositionTable).filterMap fun entry =>
    (Text.splitFirst '=' entry.2).map fun parts =>
      { first := Text.codePoint parts.1
        second := Text.codePoint entry.1
        whole := Text.codePoint parts.2 }

/-- The first syllable of Hangul, and the first of its letters in each of the
    three positions. The last position may be empty. -/
def firstSyllable : Nat := 0xAC00

/-- The letters that can start a syllable are counted from here. -/
def firstLead : Nat := 0x1100

/-- The letters that can be the vowel of a syllable are counted from here. -/
def firstVowel : Nat := 0x1161

/-- The letters that can end a syllable are counted from behind this one. -/
def noTail : Nat := 0x11A7

/-- The two parts of a syllable, given its number. -/
def syllableParts (n : Nat) : Char × Char :=
  if n % 28 = 0 then (Char.ofNat (firstLead + n / 588), Char.ofNat (firstVowel + n % 588 / 28))
  else (Char.ofNat (firstSyllable + (n - n % 28)), Char.ofNat (noTail + n % 28))

/-- The two parts of a character that is put together. -/
def parts? (c : Char) : Option (Char × Char) :=
  let n := c.toNat
  if firstSyllable ≤ n ∧ n < firstSyllable + 19 * 588 then some (syllableParts (n - firstSyllable))
  else
    (compositions.find? (·.whole == n)).map fun entry =>
      (Char.ofNat entry.first, Char.ofNat entry.second)

/-- The character that two parts make. -/
def compose? (a b : Char) : Option Char :=
  let m := a.toNat
  let n := b.toNat
  if firstLead ≤ m ∧ m < firstLead + 19 ∧ firstVowel ≤ n ∧ n < firstVowel + 21 then
    some (Char.ofNat (firstSyllable + (m - firstLead) * 588 + (n - firstVowel) * 28))
  else if firstSyllable ≤ m ∧ m < firstSyllable + 19 * 588 ∧ (m - firstSyllable) % 28 = 0
      ∧ noTail < n ∧ n < noTail + 28 then
    some (Char.ofNat (m + (n - noTail)))
  else
    (compositions.find? fun entry => entry.first == m && entry.second == n).map fun entry =>
      Char.ofNat entry.whole

/-- A character taken apart, at most so often. -/
def takenApart : Nat → Char → List Char
  | 0, c => [c]
  | depth + 1, c =>
      match parts? c with
      | none => [c]
      | some (a, b) => takenApart depth a ++ [b]

/-- No character is put together more often than this. -/
def maxDepth : Nat := 4

/-- A text behind a character put together from the left. Between the
    character and the text stand marks that did not fit, the last one first; a
    mark of their class or above is out of reach for those behind it. -/
def composedFrom (c : Char) (marks : List Char) : List Char → List Char
  | [] => c :: marks.reverse
  | d :: r =>
      let isReached := marks.head?.all fun last => combiningClass last < combiningClass d
      match if isReached then compose? c d else none with
      | some whole => composedFrom whole marks r
      | none =>
          if combiningClass d = 0 then c :: marks.reverse ++ composedFrom d [] r
          else composedFrom c (d :: marks) r

/-- A text put together from the left. Marks in front of all else stay. -/
def composed : List Char → List Char
  | [] => []
  | c :: r => if combiningClass c = 0 then composedFrom c [] r else c :: composed r

/-- The one spelling of a text. -/
def normalForm (s : List Char) : List Char :=
  composed (sorted (s.flatMap (takenApart maxDepth)))

end Domain

end DashKit
