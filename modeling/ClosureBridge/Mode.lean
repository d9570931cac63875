/-!
# How source text is read

## Main definitions

* `Mode`: one interactive statement, a block of statements, or one expression.
* `Mode.code`: the start symbol that stands for it.
-/

namespace ClosureBridge

/-- What a source text is read as. -/
inductive Mode where
  /-- One interactive statement. -/
  | single
  /-- A block of statements. -/
  | file
  /-- One expression. -/
  | eval
  deriving DecidableEq, Repr

namespace Mode

/-- The start symbol of the interpreter's grammar. -/
def code : Mode → Nat
  | single => 256
  | file => 257
  | eval => 258

end Mode

end ClosureBridge
