import BinaryDiff.Text.Hex
import BinaryDiff.Text.CodeRange
import BinaryDiff.Text.WordEnd

/-! # Letter case

Granularity labels are compared in lower case and log levels in upper case, in the sense of Unicode
14. A mapping is a list of entries `41-5A:+20`, read as "the code points from 41 to 5A become those
20 higher"; `100-12E/2:+1` takes every second code point of the range only. A few characters become
several, and are listed apart. The small form of the capital sigma depends on its place in a
word. -/

namespace BinaryDiff

/-- One entry of a case mapping: the code points `first, first + step, …` up to `last` move by
`shift`. -/
structure CaseRange where
  first : Nat
  last : Nat
  step : Nat
  shift : Int
deriving DecidableEq, Repr

namespace CaseRange

/-- Whether the entry moves a code point. -/
def applies (range : CaseRange) (code : Nat) : Bool :=
  range.first ≤ code && code ≤ range.last && (code - range.first) % range.step == 0

/-- The distance that `+20` or `-20` describes. -/
def shiftOf : List Char → Option Int
  | '+' :: digits => (Hex.ofDigits digits).map Int.ofNat
  | '-' :: digits => (Hex.ofDigits digits).map fun n => -(n : Int)
  | _ => none

/-- The entry that a text such as `100-12E/2:+1` describes. -/
def ofEntry (entry : List Char) : Option CaseRange := do
  let (codes, shift) := entry.span (· != ':')
  let (range, step) := codes.span (· != '/')
  let range ← CodeRange.ofEntry range
  return ⟨range.first, range.last, if step.isEmpty then 1 else 2, ← shiftOf (shift.drop 1)⟩

/-- The entries that a text describes. -/
def list (text : String) : List CaseRange :=
  (CodeRange.entries text.toList).filterMap ofEntry

end CaseRange

/-- The lower-case mapping beyond ASCII. -/
def lowerRanges : List CaseRange := CaseRange.list
  "C0-D6:+20 D8-DE:+20 100-12E/2:+1 132-136/2:+1 139-147/2:+1 14A-176/2:+1 178:-79 179-17D/2:+1
181:+D2 182-184/2:+1 186:+CE 187:+1 189-18A:+CD 18B:+1 18E:+4F 18F:+CA 190:+CB 191:+1 193:+CD
194:+CF 196:+D3 197:+D1 198:+1 19C:+D3 19D:+D5 19F:+D6 1A0-1A4/2:+1 1A6:+DA 1A7:+1 1A9:+DA 1AC:+1
1AE:+DA 1AF:+1 1B1-1B2:+D9 1B3-1B5/2:+1 1B7:+DB 1B8:+1 1BC:+1 1C4:+2 1C5:+1 1C7:+2 1C8:+1 1CA:+2
1CB-1DB/2:+1 1DE-1EE/2:+1 1F1:+2 1F2-1F4/2:+1 1F6:-61 1F7:-38 1F8-21E/2:+1 220:-82 222-232/2:+1
23A:+2A2B 23B:+1 23D:-A3 23E:+2A28 241:+1 243:-C3 244:+45 245:+47 246-24E/2:+1 370-372/2:+1 376:+1
37F:+74 386:+26 388-38A:+25 38C:+40 38E-38F:+3F 391-3A1:+20 3A3-3AB:+20 3CF:+8 3D8-3EE/2:+1
3F4:-3C 3F7:+1 3F9:-7 3FA:+1 3FD-3FF:-82 400-40F:+50 410-42F:+20 460-480/2:+1 48A-4BE/2:+1 4C0:+F
4C1-4CD/2:+1 4D0-52E/2:+1 531-556:+30 10A0-10C5:+1C60 10C7:+1C60 10CD:+1C60 13A0-13EF:+97D0
13F0-13F5:+8 1C90-1CBA:-BC0 1CBD-1CBF:-BC0 1E00-1E94/2:+1 1E9E:-1DBF 1EA0-1EFE/2:+1 1F08-1F0F:-8
1F18-1F1D:-8 1F28-1F2F:-8 1F38-1F3F:-8 1F48-1F4D:-8 1F59-1F5F/2:-8 1F68-1F6F:-8 1F88-1F8F:-8
1F98-1F9F:-8 1FA8-1FAF:-8 1FB8-1FB9:-8 1FBA-1FBB:-4A 1FBC:-9 1FC8-1FCB:-56 1FCC:-9 1FD8-1FD9:-8
1FDA-1FDB:-64 1FE8-1FE9:-8 1FEA-1FEB:-70 1FEC:-7 1FF8-1FF9:-80 1FFA-1FFB:-7E 1FFC:-9 2126:-1D5D
212A:-20BF 212B:-2046 2132:+1C 2160-216F:+10 2183:+1 24B6-24CF:+1A 2C00-2C2F:+30 2C60:+1
2C62:-29F7 2C63:-EE6 2C64:-29E7 2C67-2C6B/2:+1 2C6D:-2A1C 2C6E:-29FD 2C6F:-2A1F 2C70:-2A1E 2C72:+1
2C75:+1 2C7E-2C7F:-2A3F 2C80-2CE2/2:+1 2CEB-2CED/2:+1 2CF2:+1 A640-A66C/2:+1 A680-A69A/2:+1
A722-A72E/2:+1 A732-A76E/2:+1 A779-A77B/2:+1 A77D:-8A04 A77E-A786/2:+1 A78B:+1 A78D:-A528
A790-A792/2:+1 A796-A7A8/2:+1 A7AA:-A544 A7AB:-A54F A7AC:-A54B A7AD:-A541 A7AE:-A544 A7B0:-A512
A7B1:-A52A A7B2:-A515 A7B3:+3A0 A7B4-A7C2/2:+1 A7C4:-30 A7C5:-A543 A7C6:-8A38 A7C7-A7C9/2:+1
A7D0:+1 A7D6-A7D8/2:+1 A7F5:+1 FF21-FF3A:+20 10400-10427:+28 104B0-104D3:+28 10570-1057A:+27
1057C-1058A:+27 1058C-10592:+27 10594-10595:+27 10C80-10CB2:+40 118A0-118BF:+20 16E40-16E5F:+20
1E900-1E921:+22"

/-- The upper-case mapping beyond ASCII, for the characters that become one character. -/
def upperRanges : List CaseRange := CaseRange.list
  "B5:+2E7 E0-F6:-20 F8-FE:-20 FF:+79 101-12F/2:-1 131:-E8 133-137/2:-1 13A-148/2:-1 14B-177/2:-1
17A-17E/2:-1 17F:-12C 180:+C3 183-185/2:-1 188:-1 18C:-1 192:-1 195:+61 199:-1 19A:+A3 19E:+82
1A1-1A5/2:-1 1A8:-1 1AD:-1 1B0:-1 1B4-1B6/2:-1 1B9:-1 1BD:-1 1BF:+38 1C5:-1 1C6:-2 1C8:-1 1C9:-2
1CB:-1 1CC:-2 1CE-1DC/2:-1 1DD:-4F 1DF-1EF/2:-1 1F2:-1 1F3:-2 1F5:-1 1F9-21F/2:-1 223-233/2:-1
23C:-1 23F-240:+2A3F 242:-1 247-24F/2:-1 250:+2A1F 251:+2A1C 252:+2A1E 253:-D2 254:-CE 256-257:-CD
259:-CA 25B:-CB 25C:+A54F 260:-CD 261:+A54B 263:-CF 265:+A528 266:+A544 268:-D1 269:-D3 26A:+A544
26B:+29F7 26C:+A541 26F:-D3 271:+29FD 272:-D5 275:-D6 27D:+29E7 280:-DA 282:+A543 283:-DA
287:+A52A 288:-DA 289:-45 28A-28B:-D9 28C:-47 292:-DB 29D:+A515 29E:+A512 345:+54 371-373/2:-1
377:-1 37B-37D:+82 3AC:-26 3AD-3AF:-25 3B1-3C1:-20 3C2:-1F 3C3-3CB:-20 3CC:-40 3CD-3CE:-3F 3D0:-3E
3D1:-39 3D5:-2F 3D6:-36 3D7:-8 3D9-3EF/2:-1 3F0:-56 3F1:-50 3F2:+7 3F3:-74 3F5:-60 3F8:-1 3FB:-1
430-44F:-20 450-45F:-50 461-481/2:-1 48B-4BF/2:-1 4C2-4CE/2:-1 4CF:-F 4D1-52F/2:-1 561-586:-30
10D0-10FA:+BC0 10FD-10FF:+BC0 13F8-13FD:-8 1C80:-186E 1C81:-186D 1C82:-1864 1C83-1C84:-1862
1C85:-1863 1C86:-185C 1C87:-1825 1C88:+89C2 1D79:+8A04 1D7D:+EE6 1D8E:+8A38 1E01-1E95/2:-1
1E9B:-3B 1EA1-1EFF/2:-1 1F00-1F07:+8 1F10-1F15:+8 1F20-1F27:+8 1F30-1F37:+8 1F40-1F45:+8
1F51-1F57/2:+8 1F60-1F67:+8 1F70-1F71:+4A 1F72-1F75:+56 1F76-1F77:+64 1F78-1F79:+80 1F7A-1F7B:+70
1F7C-1F7D:+7E 1FB0-1FB1:+8 1FBE:-1C25 1FD0-1FD1:+8 1FE0-1FE1:+8 1FE5:+7 214E:-1C 2170-217F:-10
2184:-1 24D0-24E9:-1A 2C30-2C5F:-30 2C61:-1 2C65:-2A2B 2C66:-2A28 2C68-2C6C/2:-1 2C73:-1 2C76:-1
2C81-2CE3/2:-1 2CEC-2CEE/2:-1 2CF3:-1 2D00-2D25:-1C60 2D27:-1C60 2D2D:-1C60 A641-A66D/2:-1
A681-A69B/2:-1 A723-A72F/2:-1 A733-A76F/2:-1 A77A-A77C/2:-1 A77F-A787/2:-1 A78C:-1 A791-A793/2:-1
A794:+30 A797-A7A9/2:-1 A7B5-A7C3/2:-1 A7C8-A7CA/2:-1 A7D1:-1 A7D7-A7D9/2:-1 A7F6:-1 AB53:-3A0
AB70-ABBF:-97D0 FF41-FF5A:-20 10428-1044F:-28 104D8-104FB:-28 10597-105A1:-27 105A3-105B1:-27
105B3-105B9:-27 105BB-105BC:-27 10CC0-10CF2:-40 118C0-118DF:-20 16E60-16E7F:-20 1E922-1E943:-22"

/-- The characters whose lower case is several characters. -/
def lowerExpansions : List (Nat × List Nat) :=
  [(0x130, [0x69, 0x307])]

/-- The characters whose upper case is several characters. -/
def upperExpansions : List (Nat × List Nat) :=
  [(0xDF, [0x53, 0x53]), (0x149, [0x2BC, 0x4E]), (0x1F0, [0x4A, 0x30C]),
   (0x390, [0x399, 0x308, 0x301]), (0x3B0, [0x3A5, 0x308, 0x301]), (0x587, [0x535, 0x552]),
   (0x1E96, [0x48, 0x331]), (0x1E97, [0x54, 0x308]), (0x1E98, [0x57, 0x30A]),
   (0x1E99, [0x59, 0x30A]), (0x1E9A, [0x41, 0x2BE]), (0x1F50, [0x3A5, 0x313]),
   (0x1F52, [0x3A5, 0x313, 0x300]), (0x1F54, [0x3A5, 0x313, 0x301]),
   (0x1F56, [0x3A5, 0x313, 0x342]), (0x1F80, [0x1F08, 0x399]), (0x1F81, [0x1F09, 0x399]),
   (0x1F82, [0x1F0A, 0x399]), (0x1F83, [0x1F0B, 0x399]), (0x1F84, [0x1F0C, 0x399]),
   (0x1F85, [0x1F0D, 0x399]), (0x1F86, [0x1F0E, 0x399]), (0x1F87, [0x1F0F, 0x399]),
   (0x1F88, [0x1F08, 0x399]), (0x1F89, [0x1F09, 0x399]), (0x1F8A, [0x1F0A, 0x399]),
   (0x1F8B, [0x1F0B, 0x399]), (0x1F8C, [0x1F0C, 0x399]), (0x1F8D, [0x1F0D, 0x399]),
   (0x1F8E, [0x1F0E, 0x399]), (0x1F8F, [0x1F0F, 0x399]), (0x1F90, [0x1F28, 0x399]),
   (0x1F91, [0x1F29, 0x399]), (0x1F92, [0x1F2A, 0x399]), (0x1F93, [0x1F2B, 0x399]),
   (0x1F94, [0x1F2C, 0x399]), (0x1F95, [0x1F2D, 0x399]), (0x1F96, [0x1F2E, 0x399]),
   (0x1F97, [0x1F2F, 0x399]), (0x1F98, [0x1F28, 0x399]), (0x1F99, [0x1F29, 0x399]),
   (0x1F9A, [0x1F2A, 0x399]), (0x1F9B, [0x1F2B, 0x399]), (0x1F9C, [0x1F2C, 0x399]),
   (0x1F9D, [0x1F2D, 0x399]), (0x1F9E, [0x1F2E, 0x399]), (0x1F9F, [0x1F2F, 0x399]),
   (0x1FA0, [0x1F68, 0x399]), (0x1FA1, [0x1F69, 0x399]), (0x1FA2, [0x1F6A, 0x399]),
   (0x1FA3, [0x1F6B, 0x399]), (0x1FA4, [0x1F6C, 0x399]), (0x1FA5, [0x1F6D, 0x399]),
   (0x1FA6, [0x1F6E, 0x399]), (0x1FA7, [0x1F6F, 0x399]), (0x1FA8, [0x1F68, 0x399]),
   (0x1FA9, [0x1F69, 0x399]), (0x1FAA, [0x1F6A, 0x399]), (0x1FAB, [0x1F6B, 0x399]),
   (0x1FAC, [0x1F6C, 0x399]), (0x1FAD, [0x1F6D, 0x399]), (0x1FAE, [0x1F6E, 0x399]),
   (0x1FAF, [0x1F6F, 0x399]), (0x1FB2, [0x1FBA, 0x399]), (0x1FB3, [0x391, 0x399]),
   (0x1FB4, [0x386, 0x399]), (0x1FB6, [0x391, 0x342]), (0x1FB7, [0x391, 0x342, 0x399]),
   (0x1FBC, [0x391, 0x399]), (0x1FC2, [0x1FCA, 0x399]), (0x1FC3, [0x397, 0x399]),
   (0x1FC4, [0x389, 0x399]), (0x1FC6, [0x397, 0x342]), (0x1FC7, [0x397, 0x342, 0x399]),
   (0x1FCC, [0x397, 0x399]), (0x1FD2, [0x399, 0x308, 0x300]), (0x1FD3, [0x399, 0x308, 0x301]),
   (0x1FD6, [0x399, 0x342]), (0x1FD7, [0x399, 0x308, 0x342]), (0x1FE2, [0x3A5, 0x308, 0x300]),
   (0x1FE3, [0x3A5, 0x308, 0x301]), (0x1FE4, [0x3A1, 0x313]), (0x1FE6, [0x3A5, 0x342]),
   (0x1FE7, [0x3A5, 0x308, 0x342]), (0x1FF2, [0x1FFA, 0x399]), (0x1FF3, [0x3A9, 0x399]),
   (0x1FF4, [0x38F, 0x399]), (0x1FF6, [0x3A9, 0x342]), (0x1FF7, [0x3A9, 0x342, 0x399]),
   (0x1FFC, [0x3A9, 0x399]), (0xFB00, [0x46, 0x46]), (0xFB01, [0x46, 0x49]),
   (0xFB02, [0x46, 0x4C]), (0xFB03, [0x46, 0x46, 0x49]), (0xFB04, [0x46, 0x46, 0x4C]),
   (0xFB05, [0x53, 0x54]), (0xFB06, [0x53, 0x54]), (0xFB13, [0x544, 0x546]),
   (0xFB14, [0x544, 0x535]), (0xFB15, [0x544, 0x53B]), (0xFB16, [0x54E, 0x546]),
   (0xFB17, [0x544, 0x53D])]

/-- A character under a mapping beyond ASCII. -/
def changeCase (expansions : List (Nat × List Nat)) (ranges : List CaseRange) (c : Char) :
    List Char :=
  match expansions.find? (·.1 == c.toNat) with
  | some (_, codes) => codes.map Char.ofNat
  | none =>
    match ranges.find? (·.applies c.toNat) with
    | some range => [Char.ofNat (c.toNat + range.shift).toNat]
    | none => [c]

/-- The lower case of a character. -/
def lowerChar (c : Char) : List Char :=
  if c.toNat < 0x80 then [c.toLower] else changeCase lowerExpansions lowerRanges c

/-- The upper case of a character. -/
def upperChar (c : Char) : List Char :=
  if c.toNat < 0x80 then [c.toUpper] else changeCase upperExpansions upperRanges c

/-- A text in lower case, given what stands before it, in reverse. -/
def lowerAfter (before : List Char) : List Char → List Char
  | [] => []
  | c :: rest =>
    (if c == 'Σ' && endsWord before rest then ['ς'] else lowerChar c)
      ++ lowerAfter (c :: before) rest

/-- A text in lower case. -/
def lower (text : List Char) : List Char :=
  lowerAfter [] text

/-- A text in upper case. -/
def upper (text : List Char) : List Char :=
  text.flatMap upperChar

end BinaryDiff
