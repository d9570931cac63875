import ClosureBridge.Capture
import ClosureBridge.Text.Lines

/-!
# Cells

A cell is a block of source in which the lines that start with the magic marker are directives to
the host. When its last line is an expression, that line is evaluated on its own and its value
shown, the way an interactive prompt does.

## Main definitions

* `Cell.Reading`: a cell after its magic lines have been handled.
* `Cell.read`: handle the magic lines.
* `Cell.dropBlankEnd`, `Cell.splitTail`: the last line and those before it.
* `Cell.run`: run a cell and collect its output.
-/

namespace ClosureBridge.Cell

/-- A magic line that has been handled. -/
structure Handled where
  directive : String
  argument : String
  outcome : Directive

/-- A cell after its magic lines have been handled. -/
structure Reading where
  /-- The lines of source. -/
  lines : List (List Char) := []
  /-- The magic lines, in order. -/
  handled : List Handled := []

/-- The directive and the argument of a magic line, without its marker: the first word and the
rest. -/
def splitDirective (line : List Char) : List Char × List Char :=
  let line := Margin.trim line
  match Split.at? Category.isBlank line with
  | some (directive, argument) => (directive, Margin.trim argument)
  | none => (line, [])

/-- The text after the marker of a magic line. -/
def magic? (marker : Char) : List Char → Option (List Char)
  | [] => none
  | c :: rest => if c = marker then some rest else none

variable {ι : Type}

/-- Handle the magic lines, in order; source that a handler gives takes the place of the line. -/
def read (marker : Char) (handler : String → String → Exec (World ι) Directive) :
    List (List Char) → Exec (World ι) Reading
  | [] => return {}
  | line :: rest =>
    match magic? marker line with
    | some magic => do
      let (directive, argument) := splitDirective magic
      let directive := String.ofList directive
      let argument := String.ofList argument
      let outcome ← handler directive argument
      let reading ← read marker handler rest
      let code := (outcome.code.map fun s => Lines.ofChars s.toList).getD []
      return ⟨code ++ reading.lines, ⟨directive, argument, outcome⟩ :: reading.handled⟩
    | none => do
      let reading ← read marker handler rest
      return { reading with lines := line :: reading.lines }

/-- Whether a line has nothing but blanks. -/
def isBlankLine (line : List Char) : Bool :=
  line.all Category.isBlank

/-- The lines without the blank ones at the end. -/
def dropBlankEnd (lines : List (List Char)) : List (List Char) :=
  (lines.reverse.dropWhile isBlankLine).reverse

/-- Whether a line can stand alone: it is not indented and opens no block. -/
def standsAlone (line : List Char) : Bool :=
  !(line.head?.any Category.isBlank) && (Margin.trimEnd line).getLast? != some ':'

/-- Split off the last line when it is an expression that stands alone. -/
def splitTail (isExpression : List Char → Exec (World ι) Bool) (lines : List (List Char)) :
    Exec (World ι) (List (List Char) × Option (List Char)) := do
  match lines.getLast? with
  | none => return (lines, none)
  | some last =>
    if standsAlone last then
      if ← isExpression last then return (lines.dropLast, some last)
      else return (lines, none)
    else return (lines, none)

/-- A text that ends with a line feed. -/
def endLine (text : String) : String :=
  if text.toList.getLast? = some '\n' then text else text ++ "\n"

/-- The texts of the magic lines, each on lines of its own. -/
def inlineText (handled : List Handled) : String :=
  String.join (handled.filterMap fun h => h.outcome.inline.map endLine)

variable (I : Interpreter ι) (c : Context)

/-- Whether a line compiles as an expression. -/
def isExpression (line : List Char) : Exec (World ι) Bool :=
  Context.compiles I (String.ofList line) .eval

/-- Run the lines of a cell but the last; tells whether there was no error. -/
def runBody (lines : List (List Char)) : Exec (World ι) Bool := do
  let body := Lines.join lines
  if isBlankLine body then return true
  else
    match ← c.execute I (String.ofList body) .file true with
    | some r =>
      Context.discard I r
      return true
    | none => return false

/-- Evaluate the last line and show its value, unless it is the object that stands for none. -/
def runTail (tail : Option (List Char)) : Exec (World ι) (Option String) := do
  match tail with
  | none => return none
  | some line =>
    match ← c.execute I (String.ofList line) .eval true with
    | none => return none
    | some value =>
      let shown ← Context.reprOf I value
      Context.discard I value
      return shown.filter (· != "None")

/-- Run a cell. Its output is what was written while it ran, then the texts of the magic lines,
then the value of the last line. An error ends the cell; its traceback has been written by then. -/
def run (source : String) (marker : Char)
    (handler : String → String → Exec (World ι) Directive) :
    Exec (World ι) (String × List Handled) := do
  let _ ← Capture.start I c
  let _ ← Capture.drain I c
  let reading ← read marker handler (Lines.ofChars source.toList)
  let (lines, tail) ← splitTail (isExpression I) (dropBlankEnd reading.lines)
  let shown ← if ← runBody I c lines then runTail I c tail else pure none
  let written ← Capture.drain I c
  return (written ++ inlineText reading.handled ++ shown.getD "", reading.handled)

end ClosureBridge.Cell
