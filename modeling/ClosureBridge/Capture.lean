import ClosureBridge.Context

/-!
# Captured output

A buffer on the interpreter's side takes the place of both output streams. It keeps a mark, so
that what was written since the mark can be told from all that was written.

## Main definitions

* `Capture.name`, `Capture.source`: the global that holds the buffer, and the source that makes it.
* `Capture.install`: put the buffer in place, once for each namespace.
* `Capture.drain`, `Capture.all`: read the buffer.
-/

namespace ClosureBridge.Capture

/-- The global that holds the buffer. -/
def name : String := "__pylambda_output__"

/-- The source that makes the buffer and puts it in place of both streams. -/
def source : String :=
  String.intercalate "\n" [
    "import sys as _pylambda_sys",
    "",
    "class _PyLambdaOutput:",
    "    def __init__(self):",
    "        self._chunks = []",
    "        self._mark = 0",
    "",
    "    def write(self, text):",
    "        self._chunks.append(text)",
    "        return len(text)",
    "",
    "    def flush(self):",
    "        pass",
    "",
    "    def value(self):",
    "        return ''.join(self._chunks)",
    "",
    "    def recent(self):",
    "        return ''.join(self._chunks[self._mark:])",
    "",
    "    def mark(self):",
    "        self._mark = len(self._chunks)",
    "",
    "__pylambda_output__ = _PyLambdaOutput()",
    "_pylambda_sys.stdout = __pylambda_output__",
    "_pylambda_sys.stderr = __pylambda_output__",
    ""]

variable {ι : Type} (I : Interpreter ι) (c : Context)

/-- Source that calls a method of the buffer. -/
def methodCall (method : String) : String :=
  name ++ "." ++ method ++ "()"

/-- Put the buffer in place, unless the namespace has one: another context over the same namespace
may have made it, and a second one would lose what the first has not given out. -/
def install : Exec (World ι) Bool := do
  if (← c.getGlobal I name).isSome then return true
  else
    match ← c.execute I source .file true with
    | some r =>
      Context.discard I r
      return true
    | none => return false

/-- Capture output from now on; tells whether it is captured. -/
def start : Exec (World ι) Bool := do
  if ← c.isCapturing then return true
  else
    let installed ← install I c
    c.setCapturing installed
    return installed

/-- The text that a method of the buffer gives. -/
def read (method : String) : Exec (World ι) String := do
  match ← c.execute I (methodCall method) .eval false with
  | none => return ""
  | some r =>
    let text ← Context.strOf I r
    Context.discard I r
    return text.getD ""

/-- What was written since the mark, which then moves to the end. -/
def drain : Exec (World ι) String := do
  if ← c.isCapturing then
    let text ← read I c "recent"
    if let some r ← c.execute I (methodCall "mark") .file false then
      Context.discard I r
    return text
  else return ""

/-- All that was written. -/
def all : Exec (World ι) String := do
  if ← c.isCapturing then read I c "value" else return ""

end ClosureBridge.Capture
