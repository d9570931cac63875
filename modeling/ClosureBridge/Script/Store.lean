import ClosureBridge.Interpreter
import ClosureBridge.Script.Show

/-!
# Scripted interpreters

All scripted interpreters share one heap. Each has a main namespace, at most one pending error, and
at most one buffer that output goes to.

## Main definitions

* `Machine`: a scripted interpreter.
* `Store`: the heap and the interpreters.
* `Outside`: a store, and whatever else is kept beside it.
* `Store.alloc`, `Store.object`, `Store.shown`, `Store.raise`, `Store.takeFault`, `Store.write`.
-/

namespace ClosureBridge.Script

/-- A scripted interpreter. -/
structure Machine where
  /-- The main namespace. -/
  main : Ref
  /-- The namespace of the built-in names. -/
  builtins : Ref
  /-- The pending error. -/
  pending : Option Fault := none
  /-- The buffer that output goes to. -/
  sink : Option Ref := none
  /-- What was written while there was no buffer. -/
  console : String := ""
  /-- The sources that were run, the last one first. -/
  executed : List String := []
  /-- Whether text objects can be built from host texts. -/
  textConstructor : Bool := true
  deriving DecidableEq, Inhabited

/-- The heap and the interpreters. -/
structure Store where
  heap : Heap := {}
  machines : Array Machine := #[]

/-- A store, and whatever else is kept beside it. -/
structure Outside (δ : Type) where
  store : Store := {}
  rest : δ

namespace Store

variable {δ : Type}

/-- Read the store. -/
def read : Quiet (Outside δ) Store := do
  return (← get).store

/-- Change the heap. -/
def modifyHeap (f : Heap → Heap) : Quiet (Outside δ) Unit :=
  modify fun w => { w with store := { w.store with heap := f w.store.heap } }

/-- An interpreter. -/
def machine (m : Nat) : Quiet (Outside δ) Machine := do
  return ((← read).machines[m]?).getD default

/-- Change an interpreter. -/
def modifyMachine (m : Nat) (f : Machine → Machine) : Quiet (Outside δ) Unit :=
  modify fun w => { w with store := { w.store with machines := w.store.machines.modify m f } }

/-- Make an object. -/
def alloc (o : Object) : Quiet (Outside δ) (Option Ref) :=
  modifyGet fun w =>
    let (r, heap) := w.store.heap.alloc o
    (some r, { w with store := { w.store with heap } })

/-- The object that a reference refers to. -/
def object (r : Option Ref) : Quiet (Outside δ) Object := do
  return (← read).heap.get r

/-- The text that shows an object. -/
def shown (r : Option Ref) : Quiet (Outside δ) String := do
  return (← read).heap.repr (← readThe DescriptorPool) r

/-- The text that an object converts to. -/
def str (r : Option Ref) : Quiet (Outside δ) String := do
  return (← read).heap.str (← readThe DescriptorPool) r

/-- Make an error pending, in place of one that is. -/
def raise (m : Nat) (e : Fault) : Quiet (Outside δ) Unit :=
  modifyMachine m fun s => { s with pending := some e }

/-- Take the pending error. -/
def takeFault (m : Nat) : Quiet (Outside δ) (Option Fault) := do
  let pending := (← machine m).pending
  modifyMachine m fun s => { s with pending := none }
  return pending

/-- What a namespace binds a name to. -/
def find (scope : Option Ref) (name : String) : Quiet (Outside δ) (Option (Option Ref)) := do
  match ← object scope with
  | .dict names => return names.get? name
  | _ => return none

/-- Bind a name in a namespace; tells whether it is one. -/
def bind (scope : Option Ref) (name : String) (value : Option Ref) :
    Quiet (Outside δ) Bool := do
  match scope, ← object scope with
  | some r, .dict names =>
    modifyHeap fun h => h.set r (.dict (names.insert name value))
    return true
  | _, _ => return false

/-- Write text to the buffer that output goes to, or to the console. -/
def write (m : Nat) (text : String) : Quiet (Outside δ) Unit := do
  match (← machine m).sink with
  | none => modifyMachine m fun s => { s with console := s.console ++ text }
  | some r =>
    if let .output buffer ← object (some r) then
      modifyHeap fun h => h.set r (.output (buffer.write text))

/-- Make a scripted interpreter. -/
def addMachine (textConstructor : Bool) : Quiet (Outside δ) Nat :=
  modifyGet fun w =>
    let (main, heap) := w.store.heap.alloc (.dict ∅)
    let (builtins, heap) := heap.alloc (.dict ∅)
    (w.store.machines.size,
      { w with store := ⟨heap, w.store.machines.push { main, builtins, textConstructor }⟩ })

end Store

end ClosureBridge.Script
