import ClosureBridge.Script.Expr

/-!
# Reading expressions

A reader for each level of the grammar, the loosest first: a lambda or a comparison, sums,
products, negation, calls, and what stands alone. Each takes the tokens that are left and gives an
expression and the tokens after it.

The readers descend at most six levels before they pass a token, so a budget of eight for each
token and eight more is never used up.

## Main definitions

* `Parser.expr`: read an expression.
* `Expr.ofTokens`: the expression that all tokens make up.
-/

namespace ClosureBridge.Script

namespace Parser

/-- The words that are no name of a value. -/
def isReserved (name : String) : Bool :=
  name == "lambda" || name == "raise"

/-- What is wrong where something else has to follow. -/
def misplaced : List Token → SyntaxFault
  | [] => .unexpectedEnd
  | _ :: _ => .invalid

/-- Pass a symbol. -/
def expect (s : Symbol) : List Token → Except SyntaxFault (List Token)
  | .symbol t :: rest => if t = s then .ok rest else .error .invalid
  | tokens => .error (misplaced tokens)

/-- The parameters of a lambda after the first, up to the colon. -/
def moreParams : List Token → Except SyntaxFault (List String × List Token)
  | .symbol .colon :: rest => .ok ([], rest)
  | .symbol .comma :: .name p :: rest => do
    let (ps, rest) ← moreParams rest
    return (p :: ps, rest)
  | .symbol .comma :: _ => .error .invalid
  | tokens => .error (misplaced tokens)

/-- The parameters of a lambda, up to the colon. -/
def params : List Token → Except SyntaxFault (List String × List Token)
  | .symbol .colon :: rest => .ok ([], rest)
  | .name p :: rest => do
    let (ps, rest) ← moreParams rest
    return (p :: ps, rest)
  | _ => .error .invalid

mutual

/-- Read an expression. -/
def expr : Nat → List Token → Except SyntaxFault (Expr × List Token)
  | 0, _ => .error .tooDeep
  | n + 1, .name "lambda" :: rest => do
    let (ps, rest) ← params rest
    let (body, rest) ← expr n rest
    return (.lambda ps body, rest)
  | n + 1, tokens => do
    let (a, rest) ← sum n tokens
    match rest with
    | .symbol .equal :: rest =>
      let (b, rest) ← sum n rest
      return (.equal a b, rest)
    | rest => return (a, rest)

/-- Read products with a plus sign between two of them. -/
def sum : Nat → List Token → Except SyntaxFault (Expr × List Token)
  | 0, _ => .error .tooDeep
  | n + 1, tokens => do
    let (a, rest) ← term n tokens
    moreSum n a rest

/-- Go on with a sum. -/
def moreSum : Nat → Expr → List Token → Except SyntaxFault (Expr × List Token)
  | 0, _, _ => .error .tooDeep
  | n + 1, a, .symbol .plus :: rest => do
    let (b, rest) ← term n rest
    moreSum n (.binary .add a b) rest
  | _ + 1, a, rest => .ok (a, rest)

/-- Read factors with a product or modulo sign between two of them. -/
def term : Nat → List Token → Except SyntaxFault (Expr × List Token)
  | 0, _ => .error .tooDeep
  | n + 1, tokens => do
    let (a, rest) ← unary n tokens
    moreTerm n a rest

/-- Go on with a product. -/
def moreTerm : Nat → Expr → List Token → Except SyntaxFault (Expr × List Token)
  | 0, _, _ => .error .tooDeep
  | n + 1, a, .symbol .times :: rest => do
    let (b, rest) ← unary n rest
    moreTerm n (.binary .multiply a b) rest
  | n + 1, a, .symbol .modulo :: rest => do
    let (b, rest) ← unary n rest
    moreTerm n (.binary .modulo a b) rest
  | _ + 1, a, rest => .ok (a, rest)

/-- Read a factor, after any number of minus signs. -/
def unary : Nat → List Token → Except SyntaxFault (Expr × List Token)
  | 0, _ => .error .tooDeep
  | n + 1, .symbol .minus :: rest => do
    let (e, rest) ← unary n rest
    return (.negate e, rest)
  | n + 1, tokens => do
    let (e, rest) ← atom n tokens
    postfixes n e rest

/-- Go on with calls. -/
def postfixes : Nat → Expr → List Token → Except SyntaxFault (Expr × List Token)
  | 0, _, _ => .error .tooDeep
  | n + 1, e, .symbol .openRound :: rest => do
    let (args, rest) ← items n .closeRound rest
    postfixes n (.call e args) rest
  | n + 1, e, .symbol .dot :: .name m :: rest => do
    let rest ← expect .openRound rest
    let (args, rest) ← items n .closeRound rest
    postfixes n (.method e m args) rest
  | _ + 1, _, .symbol .dot :: _ => .error .invalid
  | _ + 1, e, rest => .ok (e, rest)

/-- Read expressions with commas between them, up to a closing symbol. -/
def items : Nat → Symbol → List Token → Except SyntaxFault (List Expr × List Token)
  | 0, _, _ => .error .tooDeep
  | n + 1, close, tokens =>
    match expect close tokens with
    | .ok rest => .ok ([], rest)
    | .error _ => someItems n close tokens

/-- Read at least one expression, up to a closing symbol. -/
def someItems : Nat → Symbol → List Token → Except SyntaxFault (List Expr × List Token)
  | 0, _, _ => .error .tooDeep
  | n + 1, close, tokens => do
    let (e, rest) ← expr n tokens
    match expect close rest with
    | .ok rest => return ([e], rest)
    | .error _ =>
      let rest ← expect .comma rest
      let (es, rest) ← someItems n close rest
      return (e :: es, rest)

/-- Read what stands alone. -/
def atom : Nat → List Token → Except SyntaxFault (Expr × List Token)
  | 0, _ => .error .tooDeep
  | _ + 1, [] => .error .unexpectedEnd
  | _ + 1, .integer v :: rest => .ok (.integer v, rest)
  | _ + 1, .float v :: rest => .ok (.float v, rest)
  | _ + 1, .text s :: rest => .ok (.text s, rest)
  | _ + 1, .name s :: rest => if isReserved s then .error .invalid else .ok (.name s, rest)
  | n + 1, .symbol .openRound :: rest => do
    let (e, rest) ← expr n rest
    return (e, ← expect .closeRound rest)
  | n + 1, .symbol .openSquare :: rest => do
    let (es, rest) ← items n .closeSquare rest
    return (.list es, rest)
  | _ + 1, .symbol _ :: _ => .error .invalid

end

/-- The budget that reading some tokens needs at most. -/
def budget (tokens : List Token) : Nat :=
  8 * (tokens.length + 1)

/-- Accept what was read when nothing is left. -/
def finish {α : Type} : α × List Token → Except SyntaxFault α
  | (a, []) => .ok a
  | (_, _ :: _) => .error .invalid

end Parser

/-- The expression that all tokens make up. -/
def Expr.ofTokens (tokens : List Token) : Except SyntaxFault Expr := do
  Parser.finish (← Parser.expr (Parser.budget tokens) tokens)

end ClosureBridge.Script
