import BinaryDiff.Yaml.Spot

/-! # Scalars

The four ways to write a scalar: plain, between single or double quotes, and as a block. Lines of
plain and quoted scalars are folded: a line end becomes a space, and each further one stays. -/

namespace BinaryDiff
namespace Yaml

/-- The text that a line end and the further line ends after it stand for in a folded scalar. -/
def foldBreaks (first : List Char) (others : List Char) : List Char :=
  if first != ['\n'] then first ++ others
  else if others.isEmpty then [' '] else others

/-! ### Quoted scalars -/

namespace Quoted

/-- The character that an escape of one letter stands for. -/
def letter? (c : Char) : Option Char :=
  match c with
  | '0' => some '\x00'
  | 'a' => some '\x07'
  | 'b' => some '\x08'
  | 't' | '\t' => some '\t'
  | 'n' => some '\n'
  | 'v' => some '\x0b'
  | 'f' => some '\x0c'
  | 'r' => some '\r'
  | 'e' => some '\x1b'
  | ' ' | '"' | '\\' | '/' => some c
  | 'N' => some '\u0085'
  | '_' => some '\u00a0'
  | 'L' => some '\u2028'
  | 'P' => some '\u2029'
  | _ => none

/-- The number of digits after the letter of a numeric escape. -/
def digits? (c : Char) : Option Nat :=
  match c with
  | 'x' => some 2
  | 'u' => some 4
  | 'U' => some 8
  | _ => none

/-- The least code point of a numeric escape that is not even compared with the last one. -/
def farBeyond : Nat := 0x80000000

/-- The character of a numeric escape with a number of digits. A code point beyond the last one is
no character; half of a surrogate pair is shown as the replacement character. -/
def numeric (count : Nat) (spot : Spot) : Except YamlFailure (Char × Spot) :=
  let text := spot.rest.take count
  if text.length < count then .error .malformed
  else match Hex.ofDigits text with
    | none => .error .malformed
    | some code =>
      if farBeyond ≤ code then
        .error (.badScalar .escapeTooLarge)
      else if 0x110000 ≤ code then
        .error (.badScalar .noCharacter)
      else if 0xD800 ≤ code ∧ code < 0xE000 then .ok ('\uFFFD', spot.forward count)
      else .ok (Char.ofNat code, spot.forward count)

/-- The line ends from here on, passing over the white space between them. -/
def breaks : Nat → Spot → Except YamlFailure (List Char × Spot)
  | 0, _ => .error .malformed
  | fuel + 1, spot =>
    if spot.atSeparator then .error .malformed
    else
      let spot := spot.skip fun c => c == ' ' || c == '\t'
      match spot.lineBreak with
      | ([], spot) => .ok ([], spot)
      | (first, spot) => do
        let (others, spot) ← breaks fuel spot
        return (first ++ others, spot)

/-- White space inside a quoted scalar, folded if it holds a line end. -/
def gap (fuel : Nat) (spot : Spot) : Except YamlFailure (List Char × Spot) :=
  let (spaces, spot) := spot.run fun c => c == ' ' || c == '\t'
  if spot.peek == endMark then .error .malformed
  else match spot.lineBreak with
    | ([], spot) => .ok (spaces, spot)
    | (first, spot) => do
      let (others, spot) ← breaks fuel spot
      return (foldBreaks first others, spot)

/-- Whether a character stands for itself in a quoted scalar. -/
def isOrdinary (c : Char) : Bool :=
  !(c == '\'' || c == '"' || c == '\\' || isGapOrEnd c)

/-- A stretch of a quoted scalar without white space. -/
def stretch (double : Bool) : Nat → Spot → Except YamlFailure (List Char × Spot)
  | 0, _ => .error .malformed
  | fuel + 1, spot =>
    let (text, spot) := spot.run isOrdinary
    let c := spot.peek
    let goOn := fun (part : List Char) (spot : Spot) => do
      let (others, spot) ← stretch double fuel spot
      return (text ++ part ++ others, spot)
    if !double && c == '\'' && spot.ahead 1 == '\'' then goOn ['\''] (spot.forward 2)
    else if (double && c == '\'') || (!double && (c == '"' || c == '\\')) then goOn [c] spot.step
    else if double && c == '\\' then
      let spot := spot.step
      let c := spot.peek
      if let some letter := letter? c then goOn [letter] spot.step
      else if let some count := digits? c then
        match numeric count spot.step with
        | .error failure => .error failure
        | .ok (code, spot) => goOn [code] spot
      else if isBreak c then
        match breaks fuel spot.lineBreak.2 with
        | .error failure => .error failure
        | .ok (lines, spot) => goOn lines spot
      else .error .malformed
    else .ok (text, spot)

/-- The rest of a quoted scalar after a stretch. -/
def rest (double : Bool) (quote : Char) : Nat → Spot → Except YamlFailure (List Char × Spot)
  | 0, _ => .error .malformed
  | fuel + 1, spot =>
    if spot.peek == quote then .ok ([], spot.step)
    else do
      let (spaces, spot) ← gap (fuel + 1) spot
      let (text, spot) ← stretch double (fuel + 1) spot
      let (others, spot) ← rest double quote fuel spot
      return (spaces ++ text ++ others, spot)

/-- The quoted scalar that begins here. -/
def read (spot : Spot) : Except YamlFailure (List Char × Spot) := do
  let quote := spot.peek
  let fuel := spot.rest.length + 1
  let (first, spot) ← stretch (quote == '"') fuel spot.step
  let (others, spot) ← rest (quote == '"') quote fuel spot
  return (first ++ others, spot)

end Quoted

/-! ### Plain scalars -/

namespace Plain

/-- Whether a plain scalar ends before a character, given the one after it. -/
def endsAt (flow : Bool) (c after : Char) : Bool :=
  isGapOrEnd c
    || (c == ':' && (isGapOrEnd after || (flow && (after == ',' || after == '[' || after == ']'
      || after == '{' || after == '}'))))
    || (flow && (c == ',' || c == '?' || c == '[' || c == ']' || c == '{' || c == '}'))

/-- The length of the stretch of a plain scalar that a text begins with. -/
def stretchLength (flow : Bool) : List Char → Nat
  | [] => 0
  | c :: rest =>
    if endsAt flow c (rest.headD endMark) then 0 else stretchLength flow rest + 1

/-- The line ends after the first, passing over spaces; none if a document ends there. -/
def breaks : Nat → Spot → Option (List Char) × Spot
  | 0, spot => (none, spot)
  | fuel + 1, spot =>
    let spot := spot.skipSpaces
    match spot.lineBreak with
    | ([], spot) => (some [], spot)
    | (first, spot) =>
      if spot.atSeparator then (none, spot)
      else
        let (others, spot) := breaks fuel spot
        (others.map (first ++ ·), spot)

/-- The white space after a stretch: its folded text, the place after it, and whether a line ended.
The text is empty when the scalar cannot go on. -/
def gap (spot : Spot) : List Char × Spot × Bool :=
  let (spaces, spot) := spot.run (· == ' ')
  match spot.lineBreak with
  | ([], spot) => (spaces, spot, false)
  | (first, spot) =>
    if spot.atSeparator then ([], spot, true)
    else
      let (others, spot) := breaks (spot.rest.length + 1) spot
      match others with
      | none => ([], spot, true)
      | some others => (foldBreaks first others, spot, true)

/-- A plain scalar from here on, when `before` is the white space in front of its next stretch. The
result tells whether a line ended after the last stretch. -/
def readFrom (flow : Bool) (indent : Int) (lineEnded : Bool) (before : List Char) :
    Nat → Spot → List Char × Spot × Bool
  | 0, spot => ([], spot, lineEnded)
  | fuel + 1, spot =>
    let length := stretchLength flow spot.rest
    if spot.peek == '#' || length == 0 then ([], spot, lineEnded)
    else
      let text := before ++ spot.rest.take length
      let (spaces, spot, lineEnded) := gap (spot.forward length)
      if spaces.isEmpty || spot.peek == '#' || (!flow && (spot.column : Int) < indent) then
        (text, spot, lineEnded)
      else
        let (others, spot, lineEnded) := readFrom flow indent lineEnded spaces fuel spot
        (text ++ others, spot, lineEnded)

/-- The plain scalar that begins here, inside a block of a given indentation. -/
def read (flow : Bool) (indent : Int) (spot : Spot) : List Char × Spot × Bool :=
  readFrom flow (indent + 1) false [] (spot.rest.length + 1) spot

end Plain

/-! ### Block scalars -/

namespace Block

/-- What becomes of the line ends at the end of a block scalar. -/
inductive Chomping
  /-- They are dropped. -/
  | strip
  /-- The first one stays. -/
  | clip
  /-- All of them stay. -/
  | keep
deriving DecidableEq, Repr

/-- The header of a block scalar. -/
structure Header where
  chomping : Chomping
  /-- The indentation relative to the parent, if it is given. -/
  increment : Option Nat
deriving DecidableEq, Repr

/-- The chomping indicator that may come. -/
def chomping (spot : Spot) : Option Chomping × Spot :=
  if spot.peek == '+' then (some .keep, spot.step)
  else if spot.peek == '-' then (some .strip, spot.step)
  else (none, spot)

/-- The indentation indicator that may come; it must not be zero. -/
def increment (spot : Spot) : Except YamlFailure (Option Nat × Spot) :=
  let c := spot.peek
  if c == '0' then .error .malformed
  else if c.isDigit then .ok (some (c.toNat - 48), spot.step)
  else .ok (none, spot)

/-- The indicators after the one that opens the scalar, in either order. -/
def header (spot : Spot) : Except YamlFailure (Header × Spot) := do
  let (first, spot) := chomping spot
  let (increment, spot) ← increment spot
  let (second, spot) := match first, increment with
    | none, some _ => chomping spot
    | _, _ => (none, spot)
  if isSpaceOrEnd spot.peek then
    return (⟨(first.or second).getD .clip, increment⟩, spot)
  else .error .malformed

/-- The blank lines in front of a scalar, and the greatest indentation seen among them and on the
first line of text. -/
def leadingBlank : Nat → Nat → Spot → List Char × Nat × Spot
  | 0, deepest, spot => ([], deepest, spot)
  | fuel + 1, deepest, spot =>
    if spot.peek == ' ' then
      let spot := spot.step
      leadingBlank fuel (max deepest spot.column) spot
    else match spot.lineBreak with
      | ([], spot) => ([], deepest, spot)
      | (first, spot) =>
        let (others, deepest, spot) := leadingBlank fuel deepest spot
        (first ++ others, deepest, spot)

/-- The place after spaces, as far as a column. -/
def indentTo (indent : Nat) (spot : Spot) : Spot :=
  spot.forward ((spot.rest.takeWhile (· == ' ')).length.min (indent - spot.column))

/-- The blank lines from here on, with the next line entered as far as its indentation. -/
def blankLines (indent : Nat) : Nat → Spot → List Char × Spot
  | 0, spot => ([], spot)
  | fuel + 1, spot =>
    match (indentTo indent spot).lineBreak with
    | ([], spot) => ([], spot)
    | (first, spot) =>
      let (others, spot) := blankLines indent fuel spot
      (first ++ others, spot)

/-- Whether a line of the scalar begins here. -/
def atLine (indent : Nat) (spot : Spot) : Bool :=
  spot.column == indent && spot.peek != endMark

/-- Whether a character is a space or a tab. -/
def isWhite (c : Char) : Bool := c == ' ' || c == '\t'

/-- The lines of a scalar: its text without the last line end, that line end, and the blank lines
after it. -/
def lines (folded : Bool) (indent : Nat) :
    Nat → List Char → Spot → List Char × List Char × List Char × Spot
  | 0, before, spot => ([], [], before, spot)
  | fuel + 1, before, spot =>
    if atLine indent spot then
      let startsWhite := isWhite spot.peek
      let (text, spot) := spot.run fun c => !isLineEnd c
      let (lineEnd, spot) := spot.lineBreak
      let (blank, spot) := blankLines indent (fuel + 1) spot
      if atLine indent spot then
        let joint :=
          if folded && lineEnd == ['\n'] && !startsWhite && !isWhite spot.peek then
            if blank.isEmpty then [' '] else []
          else lineEnd
        let (others, last, after, spot) := lines folded indent fuel blank spot
        (before ++ text ++ joint ++ others, last, after, spot)
      else (before ++ text, lineEnd, blank, spot)
    else ([], [], before, spot)

/-- The block scalar that begins here, inside a block of a given indentation. -/
def read (indent : Int) (spot : Spot) : Except YamlFailure (List Char × Spot) := do
  let folded := spot.peek == '>'
  let (header, spot) ← header spot.step
  let spot ← spot.finishLine
  let fuel := spot.rest.length + 1
  let least := (max (indent + 1) 1).toNat
  let (blank, column, spot) := match header.increment with
    | none =>
      let (blank, deepest, spot) := leadingBlank fuel 0 spot
      (blank, max least deepest, spot)
    | some increment =>
      let column := least + increment - 1
      let (blank, spot) := blankLines column fuel spot
      (blank, column, spot)
  let (text, last, after, spot) := lines folded column fuel blank spot
  match header.chomping with
  | .strip => return (text, spot)
  | .clip => return (text ++ last, spot)
  | .keep => return (text ++ last ++ after, spot)

end Block
end Yaml
end BinaryDiff
