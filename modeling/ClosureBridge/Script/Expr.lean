import ClosureBridge.Script.Token

/-!
# Expressions

## Main definitions

* `BinaryOp`: the arithmetic operators between two operands.
* `Expr`: an expression.
-/

namespace ClosureBridge.Script

/-- An arithmetic operator between two operands. -/
inductive BinaryOp where
  | add
  | multiply
  | modulo
  deriving DecidableEq, Repr

namespace BinaryOp

/-- The character of an operator in messages. -/
def mark : BinaryOp → String
  | add => "+"
  | multiply => "*"
  | modulo => "%"

end BinaryOp

/-- An expression. -/
inductive Expr where
  | integer (n : Int64)
  | float (v : Float)
  | text (s : String)
  | name (s : String)
  | list (items : List Expr)
  | negate (e : Expr)
  | binary (op : BinaryOp) (a b : Expr)
  | equal (a b : Expr)
  | lambda (params : List String) (body : Expr)
  | call (callee : Expr) (args : List Expr)
  | method (receiver : Expr) (name : String) (args : List Expr)

end ClosureBridge.Script
