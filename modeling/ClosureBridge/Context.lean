import ClosureBridge.Lambda

/-!
# Contexts: source in a namespace

A context is an interpreter together with the namespace that code runs in. Errors of the
interpreter do not become errors of the host: they are printed or dropped, and the operation tells
that it failed.

## Main definitions

* `Context`: an interpreter and a namespace.
* `Context.execute`, `Context.compiles`, `Context.runSimple`: running source.
* `Context.setGlobal`, `Context.getGlobal`, `Context.getAttr`, `Context.setAttr`: names and
  attributes.
-/

namespace ClosureBridge

/-- An interpreter and the namespace in which code runs. -/
structure Context where
  /-- The number of the context among those opened. -/
  number : Nat
  machine : MachineId
  globals : Ref
  /-- Whether errors are printed unless a call says otherwise. -/
  showErrors : Bool := true
  /-- What starts a magic line. -/
  marker : Char := defaultMarker

namespace Context

variable {ι : Type}

/-- The name of source that is compiled and not run. -/
def inputName : String := "<input>"

/-- The name that the interpreter looks for in every namespace it runs code in. -/
def builtinsName : String := "__builtins__"

/-- Open a context over a namespace, unless it is missing. -/
def ofGlobals (m : MachineId) : Option Ref → Exec (World ι) (Except BindError Context)
  | none => return .error .notBound
  | some globals =>
    modifyGet fun w =>
      (.ok { number := w.capturing.size, machine := m, globals },
        { w with capturing := w.capturing.push false })

/-- Open a context over the main namespace of an interpreter. -/
def ofMachine (machine : MachineId → Interpreter ι) (m : MachineId) :
    Exec (World ι) (Except BindError Context) := do
  ofGlobals m (← (machine m).mainDict.run)

/-- Open a context over the main namespace of the interpreter that is bound. -/
def main (machine : MachineId → Interpreter ι) : Exec (World ι) (Except BindError Context) := do
  match ← Dispatch.current with
  | .error e => return .error e
  | .ok m => ofMachine machine m

/-- Open a context over a new namespace. -/
def isolated (machine : MachineId → Interpreter ι) (m : MachineId) :
    Exec (World ι) (Except BindError Context) := do
  ofGlobals m (← (machine m).newDict.run)

variable (I : Interpreter ι) (c : Context)

/-- Bind the name of the built-in names in the namespace, unless it is bound. -/
def ensureBuiltins : Exec (World ι) Unit := do
  if (← (I.dictGet c.globals builtinsName).run).isNone then
    let builtins ← I.builtins.run
    if builtins.isSome then
      unless ← (I.dictSet c.globals builtinsName builtins).run do
        I.clearError.run

/-- Print the pending error, or drop it. -/
def reportError (showErrors : Bool) : Exec (World ι) Unit := do
  if ← I.errorOccurred.run then
    if showErrors then I.printError.run else I.clearError.run

/-- Run source. Nothing is run when a NUL would end the source early. -/
def execute (source : String) (mode : Mode) (showErrors : Bool) :
    Exec (World ι) (Option Ref) := do
  if Image.crosses source then
    ensureBuiltins I c
    let r ← I.runString source mode c.globals
    if r.isNone then reportError I showErrors
    return r
  else return none

/-- Run source and treat errors as the context does. -/
def run (source : String) (mode : Mode) : Exec (World ι) (Option Ref) :=
  execute I c source mode c.showErrors

/-- Whether source compiles; leaves no error pending. -/
def compiles (source : String) (mode : Mode) : Exec (World ι) Bool := do
  if Image.crosses source then
    match ← (I.compile source inputName mode).run with
    | none =>
      I.clearError.run
      return false
    | some code =>
      (I.decref code).run
      return true
  else return false

/-- Run source in the main namespace, with the interpreter's own printing of errors. -/
def runSimple (source : String) : Exec (World ι) Bool := do
  if Image.crosses source then I.runSimple source else return false

/-- Bind a name in the namespace. -/
def setGlobal (name : String) (value : Option Ref) : Exec (World ι) Bool := do
  if Image.crosses name then
    let stored ← (I.dictSet c.globals name value).run
    unless stored do I.clearError.run
    return stored
  else return false

/-- What a name is bound to in the namespace. -/
def getGlobal (name : String) : Exec (World ι) (Option Ref) := do
  if Image.crosses name then (I.dictGet c.globals name).run else return none

/-- Read an attribute. -/
def getAttr (object : Option Ref) (name : String) : Exec (World ι) (Option Ref) := do
  if Image.crosses name then
    let value ← (I.getAttr object name).run
    if value.isNone then I.clearError.run
    return value
  else return none

/-- Write an attribute. -/
def setAttr (object : Option Ref) (name : String) (value : Option Ref) :
    Exec (World ι) Bool := do
  if Image.crosses name then
    let stored ← (I.setAttr object name value).run
    unless stored do I.clearError.run
    return stored
  else return false

/-- The text that an object converts to. -/
def strOf (object : Option Ref) : Exec (World ι) (Option String) := do
  let text ← (I.strOf object).run
  if text.isNone then I.clearError.run
  return text

/-- The text that shows an object. -/
def reprOf (object : Option Ref) : Exec (World ι) (Option String) := do
  let text ← (I.reprOf object).run
  if text.isNone then I.clearError.run
  return text

/-- Give back an object that an operation of the context gave. -/
def discard (object : Option Ref) : Exec (World ι) Unit :=
  (I.decref object).run

/-- Whether the context captures output. -/
def isCapturing : Exec (World ι) Bool := do
  return ((← get).capturing[c.number]?).getD false

/-- Remember whether the context captures output. -/
def setCapturing (b : Bool) : Exec (World ι) Unit :=
  modify fun w => { w with capturing := w.capturing.setIfInBounds c.number b }

/-- A context in diagnostics. The namespace is shown by the word that stands for an address. -/
def describe (capturing : Bool) : String :=
  "ExecutionContext \x7b globals: PyRef(PTR), show_errors: " ++
    (if c.showErrors then "true" else "false") ++ ", magic_marker: " ++ Quoted.char c.marker ++
    ", capturing: " ++ (if capturing then "true" else "false") ++ " \x7d"

end Context

end ClosureBridge
