import BinaryDiff.Display.Action.Token

/-! # Literals

A literal is a number, a text, a constant, or a group of literals between brackets; the keys of a
group that has them, and the members of one that is a set, must be of kinds that can be looked up. A
sequence of tokens that is no literal either breaks the rules of writing or would have to be
computed. -/

namespace BinaryDiff
namespace Action

/-- What a number is made of. -/
inductive NumberForm
  /-- Digits without a sign. -/
  | plain (imaginary : Bool)
  | signed (imaginary : Bool)
  /-- A real number and an imaginary one. -/
  | sum
deriving DecidableEq, Repr

/-- What a literal is, as far as the literals around it depend on that. -/
inductive LiteralKind
  | number (form : NumberForm)
  | text (bytes : Bool)
  | constant
  /-- A group; unless it can be looked up, the kind that prevents it. -/
  | group (obstacle : Option String)
deriving DecidableEq, Repr

namespace LiteralKind

/-- The kind that prevents a literal from being looked up. -/
def obstacle : LiteralKind → Option String
  | group obstacle => obstacle
  | _ => none

/-- A literal with a sign in front, which only a number without one can have. -/
def withSign : LiteralKind → Except Fault LiteralKind
  | number (.plain imaginary) => .ok (.number (.signed imaginary))
  | _ => .error .computed

/-- A literal with another one added to it or taken from it: a real number with an imaginary one
that has no sign of its own. -/
def withAddend : LiteralKind → LiteralKind → Except Fault LiteralKind
  | number (.plain false), number (.plain true) => .ok (.number .sum)
  | number (.signed false), number (.plain true) => .ok (.number .sum)
  | _, _ => .error .computed

/-- Makes sure that a literal can be looked up. -/
def checkKey (kind : LiteralKind) : Except Fault Unit :=
  match kind.obstacle with
  | some obstacle => .error (.unhashable obstacle)
  | none => .ok ()

end LiteralKind

/-- A brace that opens a group. -/
def openBrace : String := "\x7b"

/-- A brace that closes a group. -/
def closeBrace : String := "\x7d"

/-- Whether a token is the sign of a number or stands between two numbers. -/
def isNumberSign (token : Token) : Bool := token == .sign "+" || token == .sign "-"

/-- What follows the name of sets, which may stand between round brackets. -/
def afterSetName? : List Token → Option (List Token)
  | .name "set" :: rest => some rest
  | .sign "(" :: rest =>
    match afterSetName? rest with
    | some (.sign ")" :: rest) => some rest
    | _ => none
  | _ => none

/-- What follows the empty set, which is written as a call. -/
def afterEmptySet? (tokens : List Token) : Option (List Token) :=
  match afterSetName? tokens with
  | some (.sign "(" :: .sign ")" :: rest) => some rest
  | _ => none

/-- A text with the texts of its kind that follow it. -/
def withTexts (bytes : Bool) : List Token → LiteralKind × List Token
  | .text more :: rest =>
    if more = bytes then withTexts bytes rest else (.text bytes, .text more :: rest)
  | rest => (.text bytes, rest)

mutual

/-- The literal that some tokens begin with, and what follows it. -/
def literal : Nat → List Token → Except Fault (LiteralKind × List Token)
  | 0, _ => .error .computed
  | fuel + 1, tokens => do
    let (kind, rest) ← operand fuel tokens
    match rest with
    | token :: rest =>
      if isNumberSign token then
        let (addend, rest) ← operand fuel rest
        return (← kind.withAddend addend, rest)
      else return (kind, token :: rest)
    | [] => return (kind, [])

/-- The literal that some tokens begin with, unless it is a sum, and what follows it. -/
def operand : Nat → List Token → Except Fault (LiteralKind × List Token)
  | 0, _ | _, [] => .error .computed
  | fuel + 1, token :: rest =>
    match afterEmptySet? (token :: rest), token with
    | some rest, _ => .ok (.group (some "set"), rest)
    | none, .number imaginary => .ok (.number (.plain imaginary), rest)
    | none, .text bytes => .ok (withTexts bytes rest)
    | none, .template | none, .stray => .error .computed
    | none, .name word =>
      if ["True", "False", "None"].contains word then .ok (.constant, rest)
      else .error .computed
    | none, .sign sign =>
      if sign == "..." then .ok (.constant, rest)
      else if isNumberSign token then do
        let (kind, rest) ← operand fuel rest
        return (← kind.withSign, rest)
      else if sign == "(" then do
        let (kinds, comma, rest) ← items ")" fuel rest
        match kinds, comma with
        | [kind], false => return (kind, rest)
        | kinds, _ => return (.group (kinds.findSome? LiteralKind.obstacle), rest)
      else if sign == openBrace then braces fuel rest
      else .error .computed

/-- The literals up to a closing sign, whether the last of them is followed by a comma, and what
follows the sign. -/
def items (closing : String) : Nat → List Token →
    Except Fault (List LiteralKind × Bool × List Token)
  | 0, _ => .error .computed
  | fuel + 1, tokens =>
    match tokens with
    | .sign sign :: rest =>
      if sign == closing then .ok ([], true, rest) else itemsFrom closing fuel tokens
    | _ => itemsFrom closing fuel tokens

/-- At least one literal up to a closing sign. -/
def itemsFrom (closing : String) : Nat → List Token →
    Except Fault (List LiteralKind × Bool × List Token)
  | 0, _ => .error .computed
  | fuel + 1, tokens => do
    let (kind, rest) ← literal fuel tokens
    match rest with
    | .sign sign :: rest =>
      if sign == "," then
        let (kinds, comma, rest) ← items closing fuel rest
        return (kind :: kinds, comma, rest)
      else if sign == closing then return ([kind], false, rest)
      else .error .computed
    | _ => .error .computed

/-- The group after an opening brace: a set, or entries with keys. -/
def braces : Nat → List Token → Except Fault (LiteralKind × List Token)
  | 0, _ => .error .computed
  | fuel + 1, tokens =>
    match tokens with
    | .sign sign :: rest =>
      if sign == closeBrace then .ok (.group (some "dict"), rest) else bracesFrom fuel tokens
    | _ => bracesFrom fuel tokens

/-- A group with at least one member after an opening brace. -/
def bracesFrom : Nat → List Token → Except Fault (LiteralKind × List Token)
  | 0, _ => .error .computed
  | fuel + 1, tokens => do
    let (first, rest) ← literal fuel tokens
    match rest with
    | .sign ":" :: rest => return (.group (some "dict"), ← values first fuel rest)
    | .sign "," :: rest =>
      first.checkKey
      let (kinds, _, rest) ← items closeBrace fuel rest
      kinds.forM LiteralKind.checkKey
      return (.group (some "set"), rest)
    | .sign sign :: rest =>
      first.checkKey
      if sign == closeBrace then return (.group (some "set"), rest) else .error .computed
    | _ => .error .computed

/-- What follows the value of a key, the entries behind it and the brace that closes them. -/
def values (key : LiteralKind) : Nat → List Token → Except Fault (List Token)
  | 0, _ => .error .computed
  | fuel + 1, tokens => do
    let (_, rest) ← literal fuel tokens
    key.checkKey
    match rest with
    | .sign "," :: .sign sign :: rest =>
      if sign == closeBrace then return rest else entries fuel (.sign sign :: rest)
    | .sign "," :: rest => entries fuel rest
    | .sign sign :: rest => if sign == closeBrace then return rest else .error .computed
    | _ => .error .computed

/-- What follows entries with keys and the brace that closes them. -/
def entries : Nat → List Token → Except Fault (List Token)
  | 0, _ => .error .computed
  | fuel + 1, tokens => do
    let (key, rest) ← literal fuel tokens
    match rest with
    | .sign ":" :: rest => values key fuel rest
    | _ => .error .computed

end

/-- Makes sure that some tokens are literals with commas between them, on one line. -/
def literals (tokens : List Token) : Except Fault Unit := do
  let isEnd := fun token : Token => token == .sign "\n"
  let line := ((tokens.dropWhile isEnd).reverse.dropWhile isEnd).reverse ++ [.sign "\n"]
  let (_, _, rest) ← itemsFrom "\n" (8 * line.length) line
  if rest.isEmpty then return () else .error .computed

end Action
end BinaryDiff
