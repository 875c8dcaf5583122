import BinaryDiff.Number.Natural
import BinaryDiff.Text.Digit
import BinaryDiff.Text.Hex
import BinaryDiff.Text.Quoted
import BinaryDiff.Text.Word

/-! # Tokens of arguments

The arguments of an action are written as literals: numbers, texts, truth values, and groups of
them. Their text is first cut into tokens. Most mistakes are found here already: brackets that do
not match, texts without an end, and numbers that go on wrongly. -/

namespace BinaryDiff
namespace Action

/-- A mistake in the text of arguments. -/
inductive Fault
  /-- A text has no end; the line is the one where that was noticed. -/
  | openText (long : Bool) (line : Nat)
  | neverClosed (bracket : Char)
  | unmatched (bracket : Char)
  /-- A bracket closes another kind of bracket, which may stand on an earlier line. -/
  | mismatched (closing opening : Char) (line : Option Nat)
  | tooManyBrackets
  | leadingZeros
  | tooManyDigits (count : Nat)
  /-- A number of some kind goes on wrongly. -/
  | badNumber (kind : String)
  | badDigit (digit : Char) (kind : String)
  | strayBackslash
  /-- A line begins with a blank. -/
  | indented
  | strangeCharacter (c : Char)
  | zeroCharacter
  | bytesBeyondAscii
  /-- The escape between two places of a text stands for no character. -/
  | badEscape (first last : Nat) (reason : String)
  /-- The escape at a place of some bytes stands for no byte. -/
  | badByteEscape (place : Nat)
  | mixedTexts
  | noKeyForValue
  | noValueForKey
  | commaMissing
  | assignment
  /-- Something that cannot be set stands before an equals sign. -/
  | assigned (noun : String)
  /-- Something other than a name stands before an equals sign in a call. -/
  | argumentAssigned
  /-- A constant stands before an equals sign in a call. -/
  | constantAssigned (name : String)
  | elseMissing
  /-- What one star or two stand before stands alone in a bracket. -/
  | starredAlone (double : Bool)
  | starWithoutOperand
  /-- A call is written like the statement that it once was. -/
  | statement (name : String)
  | wrongPlace
  /-- A key or a member of a set is of a kind that cannot be looked up. -/
  | unhashable (kind : String)
  /-- The text is no literal. -/
  | computed
deriving DecidableEq, Repr

namespace Fault

/-- A mistake in words. -/
def message : Fault → String
  | openText long line =>
    (if long then "unterminated triple-quoted string literal" else "unterminated string literal")
      ++ s!" (detected at line {line})"
  | neverClosed bracket => s!"'{bracket}' was never closed"
  | unmatched bracket => s!"unmatched '{bracket}'"
  | mismatched closing opening line =>
    s!"closing parenthesis '{closing}' does not match opening parenthesis '{opening}'"
      ++ (match line with
        | some line => s!" on line {line}"
        | none => "")
  | tooManyBrackets => "too many nested parentheses"
  | tooManyDigits count =>
    "Exceeds the limit (4300 digits) for integer string conversion: value has "
      ++ s!"{count} digits; use sys.set_int_max_str_digits() to increase the limit - Consider "
      ++ "hexadecimal for huge integer literals to avoid decimal conversion limits."
  | leadingZeros =>
    "leading zeros in decimal integer literals are not permitted; "
      ++ "use an 0o prefix for octal integers"
  | badNumber kind => s!"invalid {kind} literal"
  | badDigit digit kind => s!"invalid digit '{digit}' in {kind} literal"
  | strayBackslash => "unexpected character after line continuation character"
  | indented => "unexpected indent"
  | strangeCharacter c =>
    let code := (String.ofList (Hex.padded 4 c.toNat)).toUpper
    if isVisible c then s!"invalid character '{c}' (U+{code})"
    else s!"invalid non-printable character U+{code}"
  | zeroCharacter => "source code string cannot contain null bytes"
  | bytesBeyondAscii => "bytes can only contain ASCII literal characters"
  | badEscape first last reason =>
    "(unicode error) 'unicodeescape' codec can't decode bytes in position "
      ++ s!"{first}-{last}: {reason}"
  | badByteEscape place => s!"(value error) invalid \\x escape at position {place}"
  | mixedTexts => "cannot mix bytes and nonbytes literals"
  | noKeyForValue => "':' expected after dictionary key"
  | noValueForKey => "expression expected after dictionary key and ':'"
  | commaMissing => "invalid syntax. Perhaps you forgot a comma?"
  | assignment => "invalid syntax. Maybe you meant '==' or ':=' instead of '='?"
  | assigned noun => s!"cannot assign to {noun} here. Maybe you meant '==' instead of '='?"
  | argumentAssigned => "expression cannot contain assignment, perhaps you meant \"==\"?"
  | constantAssigned name => s!"cannot assign to {name}"
  | elseMissing => "expected 'else' after 'if' expression"
  | starredAlone double =>
    let stars := if double then "double starred" else "starred"
    s!"cannot use {stars} expression here"
  | starWithoutOperand => "Invalid star expression"
  | statement name =>
    s!"Missing parentheses in call to '{name}'. Did you mean {name}(...)?"
  | wrongPlace => "invalid syntax"
  | unhashable kind => s!"unhashable type: '{kind}'"
  | computed => "malformed node or string"

/-- Whether the text breaks the rules of writing, rather than standing for no value. -/
def isTextual : Fault → Bool
  | unhashable _ | computed => false
  | _ => true

end Fault

/-- A token of arguments. -/
inductive Token
  | number (imaginary : Bool)
  | text (bytes : Bool)
  /-- A text with parts that have to be computed. -/
  | template
  | name (word : String)
  | sign (text : String)
  /-- A backslash that continues no line; nothing after it is read. -/
  | stray
deriving DecidableEq, Repr

/-! ### Numbers -/

/-- Whether a character can stand in a name. -/
def isNameChar (c : Char) : Bool := c.isAlphanum || c == '_' || 0x80 ≤ c.toNat

/-- The first character of a name that cannot stand where it does: one of no word, or a digit at
the beginning. -/
def strangeInName? (name : List Char) : Option Char :=
  (name.head?.filter fun c => (decimalDigit c).isSome).or (name.find? fun c => !isWordChar c)

/-- The words that may follow a number directly. -/
def wordsAfterNumber : List (List Char) :=
  ["and", "else", "for", "if", "in", "is", "or", "not"].map String.toList

/-- What follows a number of some kind, which must not go on like a name. -/
def numberEnd (kind : String) (rest : List Char) : Except Fault (List Char) :=
  match rest with
  | [] => .ok []
  | c :: _ =>
    if wordsAfterNumber.any fun word => word.isPrefixOf rest then .ok rest
    else if c.isAlphanum || c == '_' then .error (.badNumber kind)
    else .ok rest

/-- What follows decimal digits, between which single underscores may stand. -/
def afterDigits : List Char → Except Fault (List Char)
  | [] => .ok []
  | c :: rest =>
    if c == '_' then
      if (rest.head?).any Char.isDigit then afterDigits rest else .error (.badNumber "decimal")
    else if c.isDigit then afterDigits rest
    else .ok (c :: rest)

/-- What follows the digits to a base; `wanted` tells that a digit has to come, `marked` that an
underscore was the last character. -/
def afterBased (base : Nat) (kind : String) (wanted marked : Bool) :
    List Char → Except Fault (List Char)
  | [] => if wanted then .error (.badNumber kind) else .ok []
  | c :: rest =>
    if c == '_' && !marked then afterBased base kind true true rest
    else if (Hex.valueOf c).any (· < base) then afterBased base kind false false rest
    else if c.isDigit then .error (.badDigit c kind)
    else if wanted then .error (.badNumber kind)
    else numberEnd kind (c :: rest)

/-- What follows the exponent and the imaginary unit of a decimal number, and whether there is
such a unit. -/
def afterFraction (rest : List Char) : Except Fault (Bool × List Char) := do
  let rest ← match rest with
    | e :: tail =>
      if e == 'e' || e == 'E' then
        let unsigned := match tail with
          | '+' :: digits | '-' :: digits => digits
          | digits => digits
        if (unsigned.head?).any Char.isDigit then afterDigits unsigned
        else if unsigned.length < tail.length then .error (.badNumber "decimal")
        else numberEnd "decimal" rest
      else .ok rest
    | [] => .ok []
  match rest with
  | c :: tail =>
    if c == 'j' || c == 'J' then return (true, ← numberEnd "imaginary" tail)
    else return (false, ← numberEnd "decimal" rest)
  | [] => return (false, [])

/-- The greatest number of digits of a decimal integer. -/
def mostDigits : Nat := 4300

/-- Makes sure that a decimal integer has no zeros in front and not too many digits. -/
def checkInteger (written : List Char) : Except Fault Unit :=
  let count := written.countP Char.isDigit
  if written.head? == some '0' && written.any fun c => c != '0' && c != '_' then
    .error .leadingZeros
  else if mostDigits < count then .error (.tooManyDigits count)
  else .ok ()

/-- What follows a decimal number, and whether it is imaginary. -/
def afterDecimal (text : List Char) : Except Fault (Bool × List Char) := do
  let rest ← afterDigits text
  let whole := text.take (text.length - rest.length)
  match rest with
  | '.' :: tail =>
    afterFraction (← if (tail.head?).any Char.isDigit then afterDigits tail else .ok tail)
  | c :: _ =>
    if c.toLower == 'e' || c.toLower == 'j' then afterFraction rest
    else
      checkInteger whole
      return (false, ← numberEnd "decimal" rest)
  | [] =>
    checkInteger whole
    return (false, [])

/-- What follows the number that a text begins with, and whether it is imaginary. -/
def afterNumber (text : List Char) : Except Fault (Bool × List Char) :=
  match text with
  | '0' :: letter :: rest =>
    if letter.toLower == 'x' then
      (afterBased 16 "hexadecimal" true false rest).map fun rest => (false, rest)
    else if letter.toLower == 'o' then
      (afterBased 8 "octal" true false rest).map fun rest => (false, rest)
    else if letter.toLower == 'b' then
      (afterBased 2 "binary" true false rest).map fun rest => (false, rest)
    else afterDecimal text
  | text => afterDecimal text

/-! ### Texts -/

/-- What follows a text after its opening mark, and the number of line ends in it. A short text ends
with its line. -/
def afterText (quote : Char) (long : Bool) (line : Nat) :
    List Char → Except Fault (List Char × Nat)
  | [] => .error (.openText long line)
  | c :: rest =>
    if c == '\\' then
      match rest with
      | [] => .error (.openText long line)
      | d :: rest => afterText quote long (if d == '\n' then line + 1 else line) rest
    else if c == '\n' then
      if long then afterText quote long (line + 1) rest else .error (.openText long line)
    else if c == quote then
      if long then
        match rest with
        | d :: e :: rest =>
          if d == quote && e == quote then .ok (rest, line)
          else afterText quote long line (d :: e :: rest)
        | rest => afterText quote long line rest
      else .ok (rest, line)
    else afterText quote long line rest

/-- What is wrong with the escape of some hexadecimal digits that stands at a place. -/
def digitEscape? (place : Nat) (letter : Char) (count : Nat) (rest : List Char) : Option Fault :=
  let digits := (rest.take count).takeWhile fun c => (Hex.valueOf c).isSome
  if digits.length < count then
    some (.badEscape place (place + 1 + digits.length)
      ("truncated \\" ++ String.ofList (letter :: List.replicate count 'X') ++ " escape"))
  else if ((Hex.ofDigits digits).getD 0) > 0x10FFFF then
    some (.badEscape place (place + 1 + count) "illegal Unicode character")
  else none

/-- What is wrong with the escape of a character's name that stands at a place. Which names there
are is not looked at. -/
def nameEscape? (place : Nat) (rest : List Char) : Option Fault :=
  let fault := fun last => some (.badEscape place last "malformed \\N character escape")
  match rest with
  | [] => fault (place + 1)
  | c :: inside =>
    if c.toNat != 0x7B then fault (place + 1)
    else
      let name := inside.takeWhile (·.toNat != 0x7D)
      if name.length == inside.length then fault (place + 2 + name.length)
      else if name.isEmpty then fault (place + 2)
      else none

/-- The number of digits of an escape, given its letter. -/
def escapeDigits (letter : Char) : Option Nat :=
  if letter == 'x' then some 2
  else if letter == 'u' then some 4
  else if letter == 'U' then some 8
  else none

/-- The first mistake among the escapes of a text. Characters beyond ASCII take ten places, and a
backslash before one takes six. -/
def badEscape? (place : Nat) : List Char → Option Fault
  | [] => none
  | '\\' :: c :: rest =>
    let found := match escapeDigits c with
      | some count => digitEscape? place c count rest
      | none => if c == 'N' then nameEscape? place rest else none
    found.or (badEscape? (place + if c.toNat < 0x80 then 2 else 16) rest)
  | c :: rest => badEscape? (place + if c.toNat < 0x80 then 1 else 10) rest

/-- The first mistake among the escapes of some bytes. -/
def badByteEscape? (place : Nat) : List Char → Option Fault
  | '\\' :: c :: rest =>
    if c == 'x' && ((rest.take 2).takeWhile fun c => (Hex.valueOf c).isSome).length < 2 then
      some (.badByteEscape place)
    else badByteEscape? (place + 2) rest
  | _ :: rest => badByteEscape? (place + 1) rest
  | [] => none

/-- The first mistake in a text, given the letters in front of it. -/
def textFault? (letters body : List Char) : Option Fault :=
  if letters.contains 'b' then
    if body.any (fun c => 0x80 ≤ c.toNat) then some .bytesBeyondAscii
    else if letters.contains 'r' then none
    else badByteEscape? 0 body
  else if letters.contains 'r' || letters.contains 'f' then none
  else badEscape? 0 body

/-- The letters that may stand in front of a text, in lower case. -/
def textMarks : List String := ["", "b", "f", "r", "u", "br", "rb", "fr", "rf"]

/-- The mark that opens a text behind some letters, and what follows it. -/
def openingQuote? (letters : List Char) : List Char → Option (Char × List Char)
  | quote :: inside =>
    if (quote == '\'' || quote == '"') && textMarks.contains (String.ofList letters) then
      some (quote, inside)
    else none
  | [] => none

/-- The token of a text behind some letters. -/
def textToken (letters : List Char) : Token :=
  if letters.contains 'f' then .template else .text (letters.contains 'b')

/-! ### Other tokens -/

/-- The signs, longer ones before shorter ones that they begin with. -/
def signs : List String :=
  ["...", "**=", "//=", ">>=", "<<=", "!=", "==", "<=", ">=", "->", ":=", "+=", "-=", "*=", "/=",
   "%=", "&=", "|=", "^=", "@=", "**", "//", "<<", ">>"]

/-- The sign that a text begins with: one of several characters, or else its first. -/
def leadingSign (c : Char) (rest : List Char) : String :=
  (signs.find? fun sign => sign.toList.isPrefixOf (c :: rest)).getD (String.singleton c)

/-- The bracket that closes another. -/
def closingOf (bracket : Char) : Char :=
  if bracket == '(' then ')' else if bracket == '[' then ']' else Char.ofNat 0x7D

/-- The brackets that are open and their lines, the innermost first. -/
abbrev Brackets := List (Char × Nat)

/-- Whether a character opens a bracket. -/
def isOpening (c : Char) : Bool := c == '(' || c == '[' || c.toNat == 0x7B

/-- Whether a character closes a bracket. -/
def isClosing (c : Char) : Bool := c == ')' || c == ']' || c.toNat == 0x7D

/-- The greatest number of brackets that may be open at once. -/
def mostBrackets : Nat := 200

/-- The brackets that stay open after another character. -/
def Brackets.after (brackets : Brackets) (c : Char) (line : Nat) : Except Fault Brackets :=
  if isOpening c then
    if brackets.length < mostBrackets then .ok ((c, line) :: brackets)
    else .error .tooManyBrackets
  else if isClosing c then
    match brackets with
    | [] => .error (.unmatched c)
    | (opening, start) :: others =>
      if closingOf opening == c then .ok others
      else .error (.mismatched c opening (if start = line then none else some start))
  else .ok brackets

/-- Whether a character is a blank within a line. -/
def isSpace (c : Char) : Bool := c == ' ' || c == '\t' || c.toNat == 0x0C

/-- Whether the line that a text begins with has a blank before its first token. A line without
tokens has none. -/
def isIndented : List Char → Bool
  | '\\' :: '\n' :: rest => isIndented rest
  | text =>
    let word := (text.dropWhile isSpace).head?
    (text.head?).any isSpace && word != some '\n' && word != some '#'

/-- The sign for the end of a line, which tells whether the next line begins with a blank. -/
def lineEnd (following : List Char) : String := if isIndented following then "\n " else "\n"

/-- The tokens of a text and the brackets that are open at its end. -/
def tokens (line : Nat) (brackets : Brackets) :
    Nat → List Char → Except Fault (List Token × Brackets)
  | 0, _ => .ok ([], brackets)
  | _ + 1, [] => .ok ([], brackets)
  | fuel + 1, c :: rest =>
    let also := fun (token : Token) (tail : Except Fault (List Token × Brackets)) =>
      tail.map fun found => (token :: found.1, found.2)
    if isSpace c then tokens line brackets fuel rest
    else if c == '#' then tokens line brackets fuel (rest.dropWhile (· != '\n'))
    else if c == '\n' then
      if brackets.isEmpty then also (.sign (lineEnd rest)) (tokens (line + 1) brackets fuel rest)
      else tokens (line + 1) brackets fuel rest
    else if c == '\\' then
      match rest with
      | '\n' :: rest => tokens (line + 1) brackets fuel rest
      | _ => .ok ([.stray], brackets)
    else if c.isDigit || (c == '.' && (rest.head?).any Char.isDigit) then do
      let (imaginary, rest) ← afterNumber (if c == '.' then '0' :: '.' :: rest else c :: rest)
      also (.number imaginary) (tokens line brackets fuel rest)
    else if isNameChar c || c == '\'' || c == '"' then
      let word := (c :: rest).takeWhile isNameChar
      let rest := (c :: rest).dropWhile isNameChar
      let letters := word.map Char.toLower
      match openingQuote? letters rest with
      | some (quote, inside) => do
        let long := [quote, quote].isPrefixOf inside
        let start := if long then inside.drop 2 else inside
        let (rest, last) ← afterText quote long line start
        let body := start.take (start.length - rest.length - if long then 3 else 1)
        match textFault? letters body with
        | some fault => .error fault
        | none => also (textToken letters) (tokens last brackets fuel rest)
      | none =>
        match strangeInName? word with
        | some c => .error (.strangeCharacter c)
        | none => also (.name (String.ofList word)) (tokens line brackets fuel rest)
    else if c.toNat < 0x20 || c.toNat == 0x7F then .error (.strangeCharacter c)
    else
      let sign := leadingSign c rest
      match brackets.after c line with
      | .error fault => .error fault
      | .ok brackets =>
        also (.sign sign) (tokens line brackets fuel ((c :: rest).drop sign.length))

end Action
end BinaryDiff
