import ClosureBridge.Script.Parser
import ClosureBridge.Text.Lines

/-!
# Statements

A statement is one line: an assignment, a `raise`, or an expression.

## Main definitions

* `Statement.ofLine`: the statement that a line makes up.
* `Statement.block`: the statements of a text, one for each line that is neither blank nor a
  comment.
* `Expr.ofText`: the expression that a text makes up.
-/

namespace ClosureBridge.Script

/-- A statement. -/
inductive Statement where
  | assign (name : String) (e : Expr)
  | raise (kind message : String)
  | evaluate (e : Expr)

/-- The expression that a text makes up. -/
def Expr.ofText (text : List Char) : Except SyntaxFault Expr := do
  Expr.ofTokens (← Token.scan (Margin.trim text))

namespace Statement

/-- A text without the characters of a kind at its end. -/
def dropEndWhile (p : Char → Bool) (text : List Char) : List Char :=
  (text.reverse.dropWhile p).reverse

/-- The message of a `raise`: what follows the first occurrence of the kind's name in the line,
without the parentheses around it and the single quotes around what is left. -/
def raiseMessage (line : List Char) (kind : String) : List Char :=
  let rest := Margin.trim ((Split.afterText? kind.toList line).getD [])
  let inner := dropEndWhile (· == ')') (rest.dropWhile (· == '('))
  dropEndWhile (· == '\'') (inner.dropWhile (· == '\''))

/-- The statement that the tokens of a line make up. -/
def ofTokens (line : List Char) : List Token → Except SyntaxFault Statement
  | .name "raise" :: .name kind :: _ =>
    .ok (.raise kind (String.ofList (raiseMessage line kind)))
  | .name x :: .symbol .assign :: rest => (Expr.ofTokens rest).map (.assign x)
  | tokens => (Expr.ofTokens tokens).map .evaluate

/-- The statement that a line makes up. -/
def ofLine (line : List Char) : Except SyntaxFault Statement := do
  ofTokens line (← Token.scan line)

/-- Whether a line without its margins is read over. -/
def isSkipped (line : List Char) : Bool :=
  line.head?.all (· == '#')

/-- The statement that a line of a block makes up. -/
def ofBlockLine (line trimmed : List Char) : Except SyntaxFault Statement :=
  if line.head?.any Category.isBlank then .error .indent
  else if trimmed.getLast? = some ':' then .error .compound
  else ofLine trimmed

/-- The statements of lines. -/
def ofLines : List (List Char) → Except SyntaxFault (List Statement)
  | [] => .ok []
  | line :: rest =>
    let trimmed := Margin.trim line
    if isSkipped trimmed then ofLines rest
    else do
      let s ← ofBlockLine line trimmed
      return s :: (← ofLines rest)

/-- The statements of a text. -/
def block (text : List Char) : Except SyntaxFault (List Statement) :=
  ofLines (Lines.ofChars text)

end Statement

end ClosureBridge.Script
