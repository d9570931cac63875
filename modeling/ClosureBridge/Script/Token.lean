import ClosureBridge.Number.FloatText
import ClosureBridge.Script.Fault
import ClosureBridge.Text.Category

/-!
# Tokens

Source text is cut into tokens by a machine that reads one character at a time. Between two
characters it is ready for a new token or inside one; the character that cannot continue a token
ends it and is read afresh.

## Main definitions

* `Symbol`, `Token`.
* `Scan.State`: what the machine is inside of.
* `Scan.step`: read one character.
* `Token.scan`: the tokens of a text.
-/

namespace ClosureBridge.Script

/-- A token made of operator characters. -/
inductive Symbol where
  | openRound
  | closeRound
  | openSquare
  | closeSquare
  | comma
  | dot
  | plus
  | times
  | modulo
  | colon
  | assign
  | minus
  | equal
  deriving DecidableEq, Repr

namespace Symbol

/-- The symbol that one character stands for. -/
def ofChar? : Char → Option Symbol
  | '(' => some openRound
  | ')' => some closeRound
  | '[' => some openSquare
  | ']' => some closeSquare
  | ',' => some comma
  | '.' => some dot
  | '+' => some plus
  | '*' => some times
  | '%' => some modulo
  | ':' => some colon
  | '=' => some assign
  | '-' => some minus
  | _ => none

end Symbol

/-- A token. -/
inductive Token where
  | integer (n : Int64)
  | float (v : Float)
  | text (s : String)
  | name (s : String)
  | symbol (s : Symbol)

namespace Token

/-- The token that digits and points make up: a decimal if there is a point among them, else an
integer. -/
def ofNumber (digits : List Char) : Except SyntaxFault Token :=
  if digits.contains '.' then
    match FloatText.read? digits with
    | some v => .ok (float v)
    | none => .error .number
  else
    match Word.ofInt? (FloatText.value digits) with
    | some n => .ok (integer n)
    | none => .error .number

end Token

namespace Scan

/-- What the machine is inside of. The characters of a token are kept with the last one first. -/
inductive State where
  /-- No token. -/
  | ready
  /-- A number. -/
  | number (read : List Char)
  /-- A name. -/
  | name (read : List Char)
  /-- A text literal. -/
  | text (quote : Char) (read : List Char)
  /-- A text literal, after a backslash. -/
  | escape (quote : Char) (read : List Char)
  /-- An equals sign that may be the first of two. -/
  | equals
  deriving DecidableEq, Repr

/-- What a number goes on with. -/
def isNumberPart (c : Char) : Bool :=
  c.isDigit || c == '.'

/-- What a name starts with. -/
def isNameStart (c : Char) : Bool :=
  Category.isAlphabetic c || c == '_'

/-- What a name goes on with. -/
def isNamePart (c : Char) : Bool :=
  Category.isAlphanumeric c || c == '_'

/-- The character that stands after a backslash. -/
def unescape (c : Char) : Char :=
  if c = 'n' then '\n' else c

/-- Read a character with no token begun: what it yields, and what it begins. -/
def start (c : Char) : Except SyntaxFault (List Token × State) :=
  if Category.isBlank c then .ok ([], .ready)
  else if c.isDigit then .ok ([], .number [c])
  else if isNameStart c then .ok ([], .name [c])
  else if c = '\'' ∨ c = '"' then .ok ([], .text c [])
  else if c = '=' then .ok ([], .equals)
  else match Symbol.ofChar? c with
    | some s => .ok ([.symbol s], .ready)
    | none => .error .invalid

/-- The token that ends when something follows that cannot continue it. -/
def close : State → Except SyntaxFault (List Token)
  | .ready => .ok []
  | .number read => (Token.ofNumber read.reverse).map fun t => [t]
  | .name read => .ok [.name (String.ofList read.reverse)]
  | .text .. => .error .unterminated
  | .escape .. => .error .unterminated
  | .equals => .ok [.symbol .assign]

/-- End a token and read the character after it. -/
def restart (s : State) (c : Char) : Except SyntaxFault (List Token × State) := do
  let done ← close s
  let (tokens, next) ← start c
  return (done ++ tokens, next)

/-- Read one character: what it yields, and what the machine is inside of afterwards. -/
def step (s : State) (c : Char) : Except SyntaxFault (List Token × State) :=
  match s with
  | .ready => start c
  | .number read => if isNumberPart c then .ok ([], .number (c :: read)) else restart s c
  | .name read => if isNamePart c then .ok ([], .name (c :: read)) else restart s c
  | .text quote read =>
    if c = quote then .ok ([.text (String.ofList read.reverse)], .ready)
    else if c = '\\' then .ok ([], .escape quote read)
    else .ok ([], .text quote (c :: read))
  | .escape quote read => .ok ([], .text quote (unescape c :: read))
  | .equals => if c = '=' then .ok ([.symbol .equal], .ready) else restart s c

/-- The tokens of a text that the machine reads from a given state on. -/
def tokens : State → List Char → Except SyntaxFault (List Token)
  | s, [] => close s
  | s, c :: rest => do
    let (done, next) ← step s c
    return done ++ (← tokens next rest)

end Scan

namespace Token

/-- The tokens of a text. -/
def scan (text : List Char) : Except SyntaxFault (List Token) :=
  Scan.tokens .ready text

@[simp] theorem scan_nil : scan [] = .ok [] := rfl

end Token

end ClosureBridge.Script
