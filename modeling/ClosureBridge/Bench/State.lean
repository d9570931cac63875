import ClosureBridge.Context
import ClosureBridge.Native.Interface
import ClosureBridge.Script.Interface

/-!
# A bench for the library

Host code works on a bench: interpreters of both sorts stand on it, and what host code makes lies
on it under names.

## Main definitions

* `Desk`: the things that are kept under names.
* `Bench`: the desk and the tape that native interpreters play.
* `Session`: the state of the library over a bench.
* `Bench.machine`: the interpreters.
-/

namespace ClosureBridge

/-- How an object is shown in an answer. -/
inductive ObjectView where
  /-- By its type and its text. -/
  | text
  /-- By its reference. -/
  | reference
  deriving DecidableEq, Repr

/-- The things that are kept under names. -/
structure Desk where
  view : ObjectView := .text
  machines : Bindings MachineId := ∅
  contexts : Bindings Context := ∅
  /-- The lambdas that are held. -/
  lambdas : Bindings Nat := ∅
  /-- The lambdas written as source text. -/
  sources : Bindings Nat := ∅
  /-- The objects that are kept. -/
  saved : Bindings (Option Ref) := ∅

/-- What stands on a bench beside the scripted interpreters. -/
structure Bench where
  desk : Desk := {}
  tape : Native.Tape := {}
  /-- The number of interpreters bound from images. -/
  natives : Nat := 0

/-- What interpreters on a bench keep. -/
abbrev Bench.Outside := Script.Outside Bench

/-- The state of the library over a bench. -/
abbrev Session := World Bench.Outside

namespace Bench

variable {α : Type}

/-- An operation of a native interpreter, on the tape. -/
def onTape (q : Quiet Native.Tape α) : Quiet Outside α := fun descriptors w =>
  let (a, tape) := ReaderT.run q descriptors w.rest.tape
  (a, { w with rest := { w.rest with tape } })

/-- The interpreters, given how objects are called. -/
def machine (call : Script.Caller Bench) : MachineId → Interpreter Outside
  | .scripted n => Script.interface call n
  | .native _ textConstructor => Native.interface onTape textConstructor

/-- Resolve an image and make the interpreter. -/
def resolve (image : Image) : Exec Session (Except BindError MachineId) :=
  modifyGet fun w =>
    match Native.Symbols.resolve image with
    | .error e => (.error e, w)
    | .ok textConstructor =>
      let bench := w.outside.rest
      (.ok (.native bench.natives textConstructor),
        { w with
          outside := { w.outside with rest := { bench with natives := bench.natives + 1 } } })

/-- The desk. -/
def getDesk : Exec Session Desk := do
  return (← get).outside.rest.desk

/-- Change the desk. -/
def modifyDesk (f : Desk → Desk) : Exec Session Unit :=
  modify fun w =>
    let bench := w.outside.rest
    { w with outside := { w.outside with rest := { bench with desk := f bench.desk } } }

/-- Something kept under a name; host code that names nothing panics. -/
def named (things : Bindings α) (name : String) : Exec Session α :=
  match things.get? name with
  | some a => return a
  | none => Exec.panic (.text ("nothing is kept under the name " ++ name))

/-- The interpreter with a name. -/
def machineNamed (name : String) : Exec Session MachineId := do
  named (← getDesk).machines name

/-- The number of the scripted interpreter with a name. -/
def scriptedNamed (name : String) : Exec Session Nat := do
  match ← machineNamed name with
  | .scripted n => return n
  | .native .. => Exec.panic (.text ("no scripted interpreter has the name " ++ name))

/-- The context with a name. -/
def contextNamed (name : String) : Exec Session Context := do
  named (← getDesk).contexts name

/-- Keep an interpreter under a name. -/
def keepMachine (name : String) (m : MachineId) : Exec Session Unit :=
  modifyDesk fun d => { d with machines := d.machines.insert name m }

/-- Keep a context under a name. -/
def keepContext (name : String) (c : Context) : Exec Session Unit :=
  modifyDesk fun d => { d with contexts := d.contexts.insert name c }

/-- Hold a lambda under a name. -/
def keepLambda (name : String) (n : Nat) : Exec Session Unit :=
  modifyDesk fun d => { d with lambdas := d.lambdas.insert name n }

/-- Let go of the lambda held under a name, without releasing it. -/
def dropLambda (name : String) : Exec Session Unit :=
  modifyDesk fun d => { d with lambdas := d.lambdas.erase name }

/-- Keep a lambda written as source text under a name. -/
def keepSource (name : String) (n : Nat) : Exec Session Unit :=
  modifyDesk fun d => { d with sources := d.sources.insert name n }

/-- Keep an object, or that it is missing, under a name. -/
def keepObject (name : String) (r : Option Ref) : Exec Session Unit :=
  modifyDesk fun d => { d with saved := d.saved.insert name r }

/-- Keep an object under a name, unless it is missing. -/
def save (name : String) (r : Option Ref) : Exec Session Unit := do
  if r.isSome then keepObject name r

/-- An object that has to be there. -/
def present (r : Option Ref) : Exec Session Ref :=
  match r with
  | some r => return r
  | none => Exec.panic (.text "null object")

/-- The object that a lambda held under a name is called by, unless it has been released. -/
def callableNamed (name : String) : Exec Session (Option Ref) := do
  return (((← getDesk).lambdas.get? name).bind (← get).callable?)

/-- The object that a literal makes. -/
def make (o : Script.Object) : Exec Session (Option Ref) :=
  (Script.Store.alloc o).run

mutual

/-- The object that a term stands for. -/
def object : Term → Exec Session (Option Ref)
  | .null => make .none
  | .boolean b => make (.boolean b)
  | .integer n => make (.integer n)
  | .float v => make (.float v)
  | .text s => make (.text s)
  | .list items => do make (.list (← objects items))
  | .tuple items => do make (.tuple (← objects items))
  | .record => make (.record ∅)
  | .dict => make (.dict ∅)
  | .saved name => do return ((← getDesk).saved.get? name).join
  | .lambda name => callableNamed name
  | .globals name => do return some (← contextNamed name).globals
  | .raw r => return r

/-- The objects that terms stand for, in order. -/
def objects : List Term → Exec Session (List (Option Ref))
  | [] => return []
  | t :: rest => do
    let r ← object t
    return r :: (← objects rest)

end

/-- The value that a term stands for. -/
def value : ValueTerm → Exec Session HostValue
  | .integer n => return .integer n
  | .float v => return .float v
  | .text s => return .text s
  | .boolean b => return .boolean b
  | .object t => do return .object (← present (← object t))

/-- The arguments that terms stand for. -/
def arguments : ArgumentsTerm → Exec Session Arguments
  | .integer n => return .integer n
  | .boolean b => return .boolean b
  | .float v => return .float v
  | .text s => return .text s
  | .object a => do return .object (← present (← object a))
  | .pair a b => do
    let a ← present (← object a)
    return .pair a (← present (← object b))
  | .triple a b c => do
    let a ← present (← object a)
    let b ← present (← object b)
    return .triple a b (← present (← object c))

/-- A value to build an object from. -/
def built : BuildTerm → Exec Session Built
  | .none => return .none
  | .long n => return .long n
  | .double v => return .double v
  | .text s => return .text (crossing s)
  | .boolean b => return .boolean b
  | .object t => do return .object (← present (← object t))

end Bench

end ClosureBridge
