import ClosureBridge.Capture
import ClosureBridge.Script.Eval

/-!
# A scripted interpreter behind the interface

## Main definitions

* `Unpack.tuple`: unpack an argument tuple.
* `interface`: the operations of a scripted interpreter.
-/

namespace ClosureBridge.Script

namespace Unpack

/-- What a format expects of an argument. -/
def expectation : TupleFormat → String
  | .long => "an integer is required"
  | .double => "must be real number"
  | _ => "argument 1 must be str"

/-- An argument by a format; several of them only as objects, where a missing one is left out. -/
def items (format : TupleFormat) (first : Object) (items : List (Option Ref)) :
    Except Fault Unpacked :=
  match format, first with
  | .long, .integer n => .ok (.long n)
  | .long, .boolean b => .ok (.long (if b then 1 else 0))
  | .double, .float v => .ok (.double v)
  | .double, .integer n => .ok (.double (Word.toFloat n))
  | .text, .text s => .ok (.text s)
  | .object, _ => .ok (.objects (items.filterMap id))
  | .objectPair, _ => .ok (.objects (items.filterMap id))
  | .objectTriple, _ => .ok (.objects (items.filterMap id))
  | format, o => .error (.typeError (expectation format ++ ", not " ++ o.typeName))

/-- The error of a tuple with a wrong number of arguments. -/
def wrongCount (arity given : Nat) : Fault :=
  .typeError ("function takes exactly " ++ toString arity ++ " argument" ++
    (if arity = 1 then "" else "s") ++ " (" ++ toString given ++ " given)")

/-- Unpack an argument tuple. -/
def tuple (h : Heap) (args : Option Ref) (format : TupleFormat) : Except Fault Unpacked :=
  match h.get args with
  | .tuple given =>
    if given.length = format.arity then items format (h.get given.head?.join) given
    else .error (wrongCount format.arity given.length)
  | _ => .error (.typeError "argument list must be a tuple")

end Unpack

variable {δ : Type}

/-- The object to build from a value. -/
def Object.ofBuilt? : Built → Option Object
  | .none => some .none
  | .long n => some (.integer n)
  | .double v => some (.float v)
  | .text s => some (.text s)
  | .boolean b => some (.boolean b)
  | .object _ => .none

/-- Build an object; one that is there already is taken as it is. -/
def build (v : Built) : Quiet (Outside δ) (Option Ref) :=
  match v with
  | .object r => return some r
  | v => Store.alloc ((Object.ofBuilt? v).getD .none)

/-- Unpack an argument tuple, with the error pending when that fails. -/
def unpack (m : Nat) (args : Option Ref) (format : TupleFormat) :
    Quiet (Outside δ) (Option Unpacked) := do
  match Unpack.tuple (← Store.read).heap args format with
  | .ok parts => return some parts
  | .error e =>
    Store.raise m e
    return none

/-- The text of a text object. -/
def textOf (r : Option Ref) : Quiet (Outside δ) (Option String) := do
  match ← Store.object r with
  | .text s => return some s
  | _ => return none

/-- The attributes of an object that takes them. -/
def Object.attributes? : Object → Option (Bindings (Option Ref))
  | .record names => some names
  | _ => .none

/-- Read an attribute. -/
def getAttr (m : Nat) (target : Option Ref) (name : String) :
    Quiet (Outside δ) (Option Ref) := do
  let o ← Store.object target
  match o.attributes?.bind fun names => names.get? name with
  | some r => return r
  | none =>
    Store.raise m (.noAttribute o.typeName name)
    return none

/-- Write an attribute. -/
def setAttr (m : Nat) (target : Option Ref) (name : String) (value : Option Ref) :
    Quiet (Outside δ) Bool := do
  match target, ← Store.object target with
  | some r, .record names =>
    Store.modifyHeap fun h => h.set r (.record (names.insert name value))
    return true
  | _, o =>
    Store.raise m
      ⟨"AttributeError", "'" ++ o.typeName ++ "' object attribute is read-only"⟩
    return false

/-- Write a namespace, with an error pending when it is none. -/
def dictSet (m : Nat) (scope : Option Ref) (name : String) (value : Option Ref) :
    Quiet (Outside δ) Bool := do
  if ← Store.bind scope name value then return true
  else
    Store.raise m (.system "bad argument to internal function")
    return false

/-- Whether source text can be read. -/
def check (mode : Mode) (text : String) : Except SyntaxFault Unit :=
  match mode with
  | .eval => (Expr.ofText text.toList).map fun _ => ()
  | _ => (Statement.block text.toList).map fun _ => ()

/-- Compile source text. -/
def compile (m : Nat) (text : String) (mode : Mode) : Quiet (Outside δ) (Option Ref) := do
  match check mode text with
  | .ok () => Store.alloc .code
  | .error e =>
    Store.raise m e.fault
    return none

/-- Print the pending error and drop it. -/
def printFault (m : Nat) : Quiet (Outside δ) Unit := do
  if let some e ← Store.takeFault m then Store.write m e.traceback

/-- Make a buffer, bind it in a namespace, and let output go to it. -/
def installOutput (m : Nat) (globals : Option Ref) : Quiet (Outside δ) (Option Ref) := do
  let out ← Store.alloc (.output {})
  let _ ← Store.bind globals Capture.name out
  Store.modifyMachine m fun s => { s with sink := out }
  Store.alloc .none

/-- Run source text in a namespace. The source that captures output is known by its text. -/
def runString (call : Caller δ) (m : Nat) (source : String) (mode : Mode)
    (globals : Option Ref) : Exec (World (Outside δ)) (Option Ref) := do
  (Store.modifyMachine m fun s => { s with executed := source :: s.executed }).run
  if source == Capture.source then
    (installOutput m globals).run
  else
    match ← (runText call m globals mode source).run with
    | .ok r => return r
    | .error e =>
      (Store.raise m e).run
      return none

/-- Run source text in the main namespace and print any error. -/
def runSimple (call : Caller δ) (m : Nat) (source : String) :
    Exec (World (Outside δ)) Bool := do
  let main := (← (Store.machine m).run).main
  if (← runString call m source .file (some main)).isSome then return true
  else
    (printFault m).run
    return false

/-- Call an object the way the interpreter would, with the error pending when that fails. -/
def callObject (call : Caller δ) (m : Nat) (callable : Option Ref) (args : List (Option Ref)) :
    Exec (World (Outside δ)) (Option Ref) := do
  match ← (call m callable args).run with
  | .ok r => return r
  | .error e =>
    (Store.raise m e).run
    return none

/-- The text that a reference, unless it is missing, is shown by or converts to. -/
def ofPresent (f : Option Ref → Quiet (Outside δ) String) (r : Option Ref) :
    Quiet (Outside δ) (Option String) := do
  if r.isSome then return some (← f r) else return none

/-- The operations of a scripted interpreter. References are not counted, and it always runs. -/
def interface (call : Caller δ) (m : Nat) : Interpreter (Outside δ) where
  parseTuple := unpack m
  buildValue := build
  newText text := do
    if (← Store.machine m).textConstructor then return .ok (← Store.alloc (.text text))
    else return .error (.incompatibleVersion "PyUnicode_FromString")
  newCallable d self := Store.alloc (.callable d (some self))
  textOf := textOf
  strOf := ofPresent Store.str
  reprOf := ofPresent Store.shown
  incref _ := return ()
  decref _ := return ()
  mainDict := return some (← Store.machine m).main
  newDict := Store.alloc (.dict ∅)
  builtins := return some (← Store.machine m).builtins
  dictGet scope name := return (← Store.find scope name).join
  dictSet := dictSet m
  getAttr := getAttr m
  setAttr := setAttr m
  compile text _ mode := compile m text mode
  errorOccurred := return (← Store.machine m).pending.isSome
  printError := printFault m
  clearError := do
    let _ ← Store.takeFault m
  raiseRuntimeError message := Store.raise m (.runtime message)
  ensureStarted := return ()
  runString := runString call m
  runSimple := runSimple call m

end ClosureBridge.Script
