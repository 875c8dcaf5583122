import BinaryDiff.Display.Action.Literal
import BinaryDiff.Display.Console
import BinaryDiff.Text.Blank

/-! # Mistakes in arguments

Tokens that are no literals are walked along until they break the rules of writing. Where two
operands meet, and behind an equals sign, the next operand is looked at as a whole before the
mistake gets its name: if the text ends in it, an open bracket is to blame. Rarer mistakes are not
all told apart, and the names of characters are not known. -/

namespace BinaryDiff
namespace Action

/-! ### Words and signs -/

/-- The words that stand for constants. -/
def constantWords : List String := ["True", "False", "None"]

/-- The words that stand between two operands. -/
def linkingWords : List String := ["and", "or", "in", "is", "if", "else", "for"]

/-- The words that stand in front of an operand. -/
def leadingWords : List String := ["not", "lambda", "await"]

/-- The words that have no place among operands. -/
def foreignWords : List String :=
  ["as", "assert", "async", "break", "class", "continue", "def", "del", "elif", "except",
   "finally", "from", "global", "import", "nonlocal", "pass", "raise", "return", "try", "while",
   "with", "yield"]

/-- The words that are names almost everywhere. -/
def softWords : List String := ["_", "case", "match"]

/-- The names of the statements that became calls. -/
def formerStatements : List String := ["print", "exec"]

/-- The signs that compute something from two operands. -/
def arithmeticSigns : List String :=
  ["+", "-", "*", "/", "//", "%", "**", "@", "<<", ">>", "&", "|", "^"]

/-- The signs that compare two operands. -/
def comparingSigns : List String := ["<", ">", "<=", ">=", "==", "!="]

/-- The signs that stand in front of an operand. -/
def leadingSigns : List String := ["+", "-", "~"]

/-! ### Looking ahead -/

/-- How much an operand may hold. -/
inductive Extent
  /-- Arithmetic only. -/
  | arithmetic
  /-- Comparisons and truth values, too. -/
  | truth
  /-- Choices between two values, too. -/
  | choice
deriving DecidableEq, Repr

/-- Whether a token stands between two parts of an operand. -/
def Extent.links (extent : Extent) : Token → Bool
  | .sign sign =>
    arithmeticSigns.contains sign || (extent != .arithmetic && comparingSigns.contains sign)
  | .name word =>
    (extent != .arithmetic && ["and", "or", "in", "is"].contains word)
      || (extent == .choice && ["if", "else"].contains word)
  | _ => false

/-- Whether a token stands in front of an operand. -/
def Extent.leads (extent : Extent) : Token → Bool
  | .sign sign => leadingSigns.contains sign
  | .name word => word == "await" || (extent != .arithmetic && word == "not")
  | _ => false

/-- What becomes of an operand. -/
inductive Ahead
  /-- The text ends in it, perhaps within a bracket that it opens. -/
  | ended (opened : Option Char)
  /-- There is none. -/
  | none
  /-- A stray backslash breaks it off. -/
  | stray
  /-- It is followed by other tokens. -/
  | followed (rest : List Token)
deriving DecidableEq, Repr

/-- The bracket that a token opens. -/
def opensWith : Token → Option Char
  | .sign "(" => some '('
  | .sign sign => if sign == openBrace then some (Char.ofNat 0x7B) else .none
  | _ => .none

/-- Whether a token closes a bracket. -/
def closes (token : Token) : Bool := token == .sign ")" || token == .sign closeBrace

/-- Whether a token is an operand by itself. -/
def isOperand : Token → Bool
  | .sign sign => sign == "..."
  | .name word =>
    !linkingWords.contains word && !leadingWords.contains word && !foreignWords.contains word
  | _ => true

/-- Walks along an operand. `opened` holds the brackets that were opened in it; `wanted` tells that
a part of it has to come, and `begun` that it could end before that part. -/
def Extent.walk (extent : Extent) (opened : List Char) (wanted begun : Bool) :
    List Token → Ahead
  | [] => .ended opened.head?
  | .stray :: _ => .stray
  | token :: rest =>
    match opened, opensWith token with
    | _ :: _, some bracket => extent.walk (bracket :: opened) false true rest
    | _ :: outer, .none => extent.walk (if closes token then outer else opened) false true rest
    | [], bracket? =>
      if wanted then
        match bracket? with
        | some bracket => extent.walk [bracket] false true rest
        | .none =>
          if extent.leads token then extent.walk [] true begun rest
          else if isOperand token then extent.walk [] false true rest
          else if begun then .followed (token :: rest)
          else .none
      else if extent.links token || token == .sign "." then extent.walk [] true true rest
      else if token == .sign "(" then extent.walk ['('] false true rest
      else .followed (token :: rest)

/-- What becomes of the operand that some tokens begin with. -/
def ahead (extent : Extent) (tokens : List Token) : Ahead := extent.walk [] true false tokens

/-! ### Brackets and operands -/

/-- What an operand is that was read last. -/
inductive Last
  | text (bytes : Bool)
  | number
  | word (name : String)
  | group
  /-- Something else, by the name that it has in messages. -/
  | other (noun : String)
deriving DecidableEq, Repr

/-- What was read of an operand. -/
structure Item where
  /-- The word that it begins with, if it begins with one. -/
  first : Option String
  /-- Whether it has one part only. -/
  lone : Bool
  /-- Whether it is more than arithmetic. -/
  wide : Bool
  /-- Whether it is the value of a named argument. -/
  named : Bool
  /-- Whether it belongs to a loop. -/
  looping : Bool
  /-- Whether it is a choice of which the second value is to come. -/
  choosing : Bool
deriving DecidableEq, Repr

namespace Item

/-- An operand of which nothing was read. -/
def fresh : Item := ⟨none, true, false, false, false, false⟩

/-- The operand with another part to come. -/
def linked (item : Item) (wide : Bool) : Item :=
  { item with lone := false, wide := item.wide || wide }

/-- The operand with a word in it. -/
def withWord (item : Item) (word : String) : Item :=
  if item.lone then { item with first := some word } else item

/-- Whether the operand is a single name. -/
def isName (item : Item) (last : Last) : Bool :=
  match last with
  | .word name => item.lone && !constantWords.contains name
  | _ => false

/-- The name of the operand in messages. -/
def noun (item : Item) (last : Last) : String :=
  if !item.lone then if item.wide then "comparison" else "expression"
  else
    match last with
    | .text _ | .number => "literal"
    | .word name => if constantWords.contains name then name else "name"
    | .group => "tuple"
    | .other noun => noun

end Item

/-- What may come next. -/
inductive Place
  /-- The first operand of a bracket, or its end. -/
  | start
  /-- An operand after an operator. -/
  | operand
  /-- An operand after a comma, or the end of the bracket. -/
  | item
  /-- The value that belongs to a key. -/
  | value
  /-- The name of a part of what came before. -/
  | dotted
  | after (last : Last)
deriving DecidableEq, Repr

/-- An open bracket. -/
structure Frame where
  bracket : Char
  /-- Whether the bracket holds the arguments of a call. -/
  call : Bool
  /-- Whether the entries have keys, once that is known. -/
  keyed : Option Bool
  /-- Whether the entry at hand has its key. -/
  hasKey : Bool
  /-- The operand that the bracket belongs to. -/
  outer : Item
deriving DecidableEq, Repr

namespace Frame

/-- A bracket that was just opened. -/
def fresh (bracket : Char) (call : Bool) (outer : Item) : Frame :=
  ⟨bracket, call, none, false, outer⟩

/-- Whether the bracket is a round one that calls nothing. -/
def isGroup (frame : Frame) : Bool := frame.bracket == '(' && !frame.call

/-- Whether an entry without a key stands among entries that have keys. -/
def lacksKey (frame : Frame) : Bool := frame.keyed == some true && !frame.hasKey

/-- The bracket with another entry to come. -/
def next (frame : Frame) : Frame :=
  { frame with keyed := frame.keyed.or (some false), hasKey := false }

/-- What a bracket is once it is closed. -/
def whole (frame : Frame) : Last :=
  if frame.call then .other "function call"
  else if frame.bracket == '(' then .group
  else if frame.keyed == some false || (frame.keyed.isNone && frame.hasKey) then
    .other "set display"
  else .other "dict literal"

end Frame

/-- The bracket that is open where the text ends, if there is one. -/
def openAtEnd (opened : Option Char) (frames : List Frame) : Fault :=
  match opened.or (frames.head?.map Frame.bracket) with
  | some bracket => .neverClosed bracket
  | none => .wrongPlace

/-- What is wrong with an operand after another, given the tokens from there on. -/
def besideOperand (item : Item) (last : Last) (frames : List Frame) (tokens : List Token) : Fault :=
  let named := item.lone && item.first.isSome
  let former := if item.isName last then item.first.filter formerStatements.contains else none
  let soft := (item.first.map softWords.contains).getD false
  match ahead .choice tokens, former, tokens with
  | .none, _, _ => .wrongPlace
  | .stray, _, _ => .strayBackslash
  | .ended opened, _, _ =>
    if frames.isEmpty && opened.isNone && former.isSome then .statement (former.getD "")
    else openAtEnd opened frames
  | .followed _, some name, _ => .statement name
  | .followed _, none, token :: _ =>
    let text := token == .template || token == .text true || token == .text false
    if frames.isEmpty || soft || (named && text) then .wrongPlace else .commaMissing
  | .followed _, none, [] => .wrongPlace

/-- What is wrong with an equals sign after an operand, unless it names an argument. -/
def atEquals? (item : Item) (last : Last) (frames : List Frame) (rest : List Token) :
    Option Fault :=
  match frames with
  | [] => some .wrongPlace
  | frame :: _ =>
    if item.named then some .wrongPlace
    else if frame.call then
      match last with
      | .word name =>
        if !item.lone then some .argumentAssigned
        else if constantWords.contains name then some (.constantAssigned name)
        else none
      | _ => some .argumentAssigned
    else if frame.hasKey || item.wide || (item.first.map constantWords.contains).getD false
        || (item.lone && last == .group) then some .wrongPlace
    else
      match ahead .arithmetic rest with
      | .none => some .wrongPlace
      | .stray => some .strayBackslash
      | .ended opened => some (openAtEnd opened frames)
      | .followed following =>
        if following.head? == some (.sign "=") || following.head? == some (.sign ":=") then
          some .wrongPlace
        else if item.isName last then some .assignment
        else some (.assigned (item.noun last))

/-- What is wrong with a choice, given the tokens from its condition on. -/
def atChoice? (frames : List Frame) (tokens : List Token) : Option Fault :=
  match ahead .truth tokens with
  | .none => some .wrongPlace
  | .stray => some .strayBackslash
  | .ended opened =>
    if opened.isNone && frames.isEmpty then some .elseMissing else some (openAtEnd opened frames)
  | .followed rest =>
    if rest.head? == some (.name "else") then none
    else if rest.head? == some (.sign ":") then some .wrongPlace
    else some .elseMissing

/-- What is wrong with one or two stars before the tokens of an operand. -/
def atStars? (place : Place) (double : Bool) (frames : List Frame) (rest : List Token) :
    Option Fault :=
  match frames with
  | [] => some .wrongPlace
  | frame :: _ =>
    let opening := frame.isGroup && place == .start
    match ahead .choice rest with
    | .stray => some .strayBackslash
    | .ended opened => some (openAtEnd opened frames)
    | .none =>
      some (if !double && (opening || frame.call) then .starWithoutOperand else .wrongPlace)
    | .followed following =>
      if opening && following.head? == some (.sign ")") then some (.starredAlone double)
      else if double && frame.isGroup then some .wrongPlace
      else none

/-! ### Walking -/

/-- The first mistake in tokens that follow others, if they break the rules of writing. -/
def fault? (place : Place) (item : Item) (frames : List Frame) : List Token → Option Fault
  | [] =>
    match frames, place with
    | frame :: _, _ => some (.neverClosed frame.bracket)
    | [], .after _ | [], .item => none
    | [], _ => some .wrongPlace
  | token :: rest =>
    match place with
    | .after last =>
      match token with
      | .text bytes =>
        match last with
        | .text before =>
          if bytes = before then fault? place item frames rest else some .mixedTexts
        | _ => some (besideOperand item last frames (token :: rest))
      | .name word =>
        if word == "not" && rest.head? == some (.name "in") then fault? place item frames rest
        else if word == "if" && !item.looping then
          (atChoice? frames rest).or
            (fault? .operand { item.linked true with choosing := true } frames rest)
        else if word == "else" then
          if item.choosing then
            fault? .operand { item.linked true with choosing := false } frames rest
          else some .wrongPlace
        else if word == "for" then
          fault? .operand { item.linked true with looping := true } frames rest
        else if linkingWords.contains word then fault? .operand (item.linked true) frames rest
        else some (besideOperand item last frames (token :: rest))
      | .sign sign =>
        if arithmeticSigns.contains sign then fault? .operand (item.linked false) frames rest
        else if comparingSigns.contains sign then fault? .operand (item.linked true) frames rest
        else if sign == "(" then fault? .start .fresh (.fresh '(' true item :: frames) rest
        else if sign == "." then fault? .dotted item frames rest
        else if sign == "\n" then if rest.all (· == .sign "\n") then none else some .wrongPlace
        else if sign == "\n " then some .indented
        else if sign == "=" then
          match atEquals? item last frames rest with
          | some fault => some fault
          | none => fault? .operand { Item.fresh with named := true } frames rest
        else
          match frames with
          | [] =>
            if sign == "," then fault? .item .fresh [] rest
            else some (besideOperand item last frames (token :: rest))
          | frame :: others =>
            if sign == ":=" then
              if item.isName last && !item.named && !frame.hasKey then
                fault? .operand (item.linked true) frames rest
              else some .wrongPlace
            else if sign == ":" then
              if frame.bracket != '(' && !frame.hasKey && frame.keyed != some false then
                fault? .value .fresh ({ frame with keyed := some true, hasKey := true } :: others)
                  rest
              else some .wrongPlace
            else if sign == "," then
              if frame.lacksKey then some .noKeyForValue
              else fault? .item .fresh (frame.next :: others) rest
            else if sign == ")" || sign == closeBrace then
              if frame.lacksKey then some .noKeyForValue
              else fault? (.after frame.next.whole) frame.outer others rest
            else some (besideOperand item last frames (token :: rest))
      | .stray => some .strayBackslash
      | .number _ | .template => some (besideOperand item last frames (token :: rest))
    | .dotted =>
      match token with
      | .name word =>
        if constantWords.contains word || !isOperand token then some .wrongPlace
        else fault? (.after (.other "attribute")) item frames rest
      | .stray => some .strayBackslash
      | _ => some .wrongPlace
    | place =>
      match token with
      | .stray => some .strayBackslash
      | .number _ => fault? (.after .number) item frames rest
      | .text bytes => fault? (.after (.text bytes)) item frames rest
      | .template => fault? (.after (.other "f-string expression")) item frames rest
      | .name word =>
        if leadingWords.contains word then fault? .operand (item.linked true) frames rest
        else if linkingWords.contains word || foreignWords.contains word then some .wrongPlace
        else fault? (.after (.word word)) (item.withWord word) frames rest
      | .sign sign =>
        if leadingSigns.contains sign then fault? .operand (item.linked false) frames rest
        else if sign == "..." then fault? (.after (.other "ellipsis")) item frames rest
        else if sign == "(" then fault? .start .fresh (.fresh '(' false item :: frames) rest
        else if sign == openBrace then
          fault? .start .fresh (.fresh (Char.ofNat 0x7B) false item :: frames) rest
        else if (sign == "*" || sign == "**") && (place = .start || place = .item) then
          (atStars? place (sign == "**") frames rest).or
            (fault? .operand (item.linked true) frames rest)
        else if closes token then
          match place, frames with
          | .start, frame :: others =>
            fault? (.after frame.whole) frame.outer others rest
          | .item, frame :: others => fault? (.after frame.whole) frame.outer others rest
          | .value, _ => some .noValueForKey
          | _, _ => some .wrongPlace
        else if sign == "," && place = .value then some .noValueForKey
        else if sign == "\n " && place = .item then some .indented
        else some .wrongPlace

/-- Makes sure that a text is that of literals. -/
def checkLiterals (text : List Char) : Except Fault Unit := do
  if text.contains (Char.ofNat 0) then throw .zeroCharacter
  let text := unifyLineEnds text
  if isIndented text then throw .indented
  let (found, _) ← tokens 1 [] (text.length + 1) text
  match literals found with
  | .ok () => return ()
  | .error fault => throw ((fault? .start .fresh [] found).getD fault)

/-- Reads the arguments of an action. -/
def readLiteral (text : List Char) : Except LiteralFault Unit :=
  (checkLiterals text).mapError fun fault =>
    if fault.isTextual then .misspelt fault.message else .worthless fault.message

end Action
end BinaryDiff
