/-!
# Errors of scripts

## Main definitions

* `Fault`: an error that a script can end with, by kind and message.
* `SyntaxFault`: why source text is not accepted, and `SyntaxFault.fault`, its wording.
-/

namespace ClosureBridge.Script

/-- An error that a script can end with. -/
structure Fault where
  kind : String
  message : String
  deriving DecidableEq, Repr

namespace Fault

/-- An operation on an object of a wrong type. -/
def typeError (message : String) : Fault :=
  ⟨"TypeError", message⟩

/-- A name that is not bound. -/
def unbound (name : String) : Fault :=
  ⟨"NameError", "name '" ++ name ++ "' is not defined"⟩

/-- An attribute that an object of a type does not have. -/
def noAttribute (typeName name : String) : Fault :=
  ⟨"AttributeError", "'" ++ typeName ++ "' object has no attribute '" ++ name ++ "'"⟩

/-- An error raised by the host. -/
def runtime (message : String) : Fault :=
  ⟨"RuntimeError", message⟩

/-- A breach of the interpreter's own rules. -/
def system (message : String) : Fault :=
  ⟨"SystemError", message⟩

/-- The text that shows an error to a reader. -/
def traceback (e : Fault) : String :=
  "Traceback (most recent call last):\n  File \"<string>\", line 1, in <module>\n" ++
    e.kind ++ ": " ++ e.message ++ "\n"

end Fault

/-- Why source text is not accepted. -/
inductive SyntaxFault where
  /-- The text ends where something has to follow. -/
  | unexpectedEnd
  /-- Something stands where it may not. -/
  | invalid
  /-- A number that is no integer in range and no decimal. -/
  | number
  /-- A text literal without its closing quote. -/
  | unterminated
  /-- A line that is indented. -/
  | indent
  /-- A line that opens a block. -/
  | compound
  /-- The nesting is deeper than the reader's budget. -/
  | tooDeep
  deriving DecidableEq, Repr

namespace SyntaxFault

/-- The wording of a rejection. -/
def message : SyntaxFault → String
  | unexpectedEnd => "unexpected EOF while parsing"
  | invalid => "invalid syntax"
  | number => "invalid decimal literal"
  | unterminated => "unterminated string literal"
  | indent => "unexpected indent"
  | compound => "compound statements are not supported"
  | tooDeep => "too many nested parentheses"

/-- The kind of error that a rejection is. -/
def kind : SyntaxFault → String
  | indent => "IndentationError"
  | _ => "SyntaxError"

/-- The error that a rejection is. -/
def fault (e : SyntaxFault) : Fault :=
  ⟨e.kind, e.message⟩

end SyntaxFault

end ClosureBridge.Script
