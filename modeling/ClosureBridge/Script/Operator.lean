import ClosureBridge.Script.Heap

/-!
# Operators

## Main definitions

* `Operator.Outcome`: an object, an error of the script, or a failure of checked arithmetic.
* `Operator.negate`, `Operator.binary`: the operators on objects.
-/

namespace ClosureBridge.Script.Operator

/-- What an operator gives. -/
inductive Outcome where
  | object (o : Object)
  | fault (e : Fault)
  | overflow (e : Overflow)

/-- An integer result. -/
def ofWord : Except Overflow Int64 → Outcome
  | .ok n => .object (.integer n)
  | .error e => .overflow e

/-- The negative of an object. -/
def negate : Object → Outcome
  | .integer n => ofWord (Word.neg? n)
  | .float v => .object (.float (-v))
  | _ => .fault (.typeError "bad operand type for unary -")

/-- The error of an operator that is not defined on two objects. -/
def unsupported (op : BinaryOp) (a b : Object) : Fault :=
  .typeError ("unsupported operand type(s) for " ++ op.mark ++ ": '" ++ a.typeName ++ "' and '" ++
    b.typeName ++ "'")

/-- An operator between two objects. -/
def binary (op : BinaryOp) (a b : Object) : Outcome :=
  match op, a, b with
  | .add, .integer x, .integer y => ofWord (Word.add? x y)
  | .multiply, .integer x, .integer y => ofWord (Word.mul? x y)
  | .modulo, .integer x, .integer y =>
    if y = 0 then .fault ⟨"ZeroDivisionError", "integer modulo by zero"⟩
    else ofWord (Word.mod? x y)
  | .add, .float x, .float y => .object (.float (x + y))
  | .multiply, .float x, .float y => .object (.float (x * y))
  | .add, .integer x, .float y => .object (.float (Word.toFloat x + y))
  | .add, .float x, .integer y => .object (.float (Word.toFloat y + x))
  | .multiply, .integer x, .float y => .object (.float (Word.toFloat x * y))
  | .multiply, .float x, .integer y => .object (.float (Word.toFloat y * x))
  | .add, .text x, .text y => .object (.text (x ++ y))
  | op, a, b => .fault (unsupported op a b)

end ClosureBridge.Script.Operator
