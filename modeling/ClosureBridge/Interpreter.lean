import ClosureBridge.World

/-!
# Interpreters

What the library needs of an interpreter. A reference that is missing in an answer means that the
interpreter has an error pending.

Most operations touch nothing but what the interpreters keep; they may read the descriptors, whose
addresses an interpreter holds, and never write them. Running source is different: the source may
call closures of the host, and these may do anything.

## Main definitions

* `Unpacked`, `Built`: what tuples are unpacked into, and what objects are built from.
* `Quiet`: an operation that runs no code of the host.
* `Interpreter`: the operations of an interpreter.
* `Quiet.run`: a quiet operation as a computation of the library.

## Main statements

* `Quiet.run_run`: a quiet operation changes nothing of the library's own state.
-/

namespace ClosureBridge

/-- The host's view of an argument tuple. -/
inductive Unpacked where
  | long (n : Int64)
  | double (v : Float)
  | text (s : String)
  /-- References in the order of the call. -/
  | objects (rs : List Ref)

/-- A value of the host that becomes an object. -/
inductive Built where
  | none
  | long (n : Int64)
  | double (v : Float)
  | text (s : String)
  | boolean (b : Bool)
  | object (r : Ref)

/-- An operation that runs no code of the host. -/
abbrev Quiet (ι α : Type) := ReaderT DescriptorPool (StateM ι) α

/-- The operations of an interpreter. -/
structure Interpreter (ι : Type) where
  /-- Unpack an argument tuple. -/
  parseTuple : Option Ref → TupleFormat → Quiet ι (Option Unpacked)
  /-- Build an object. -/
  buildValue : Built → Quiet ι (Option Ref)
  /-- Build a text object, which an old interpreter cannot. -/
  newText : String → Quiet ι (Except BindError (Option Ref))
  /-- Build a callable from a descriptor and the object it is called with. -/
  newCallable : Nat → Ref → Quiet ι (Option Ref)
  /-- The text of a text object. -/
  textOf : Option Ref → Quiet ι (Option String)
  /-- The text that an object converts to. -/
  strOf : Option Ref → Quiet ι (Option String)
  /-- The text that shows an object. -/
  reprOf : Option Ref → Quiet ι (Option String)
  /-- Take a reference. -/
  incref : Option Ref → Quiet ι Unit
  /-- Give a reference back. -/
  decref : Option Ref → Quiet ι Unit
  /-- The main namespace. -/
  mainDict : Quiet ι (Option Ref)
  /-- A new namespace. -/
  newDict : Quiet ι (Option Ref)
  /-- The namespace of the built-in names. -/
  builtins : Quiet ι (Option Ref)
  /-- Read a namespace. -/
  dictGet : Option Ref → String → Quiet ι (Option Ref)
  /-- Write a namespace. -/
  dictSet : Option Ref → String → Option Ref → Quiet ι Bool
  /-- Read an attribute. -/
  getAttr : Option Ref → String → Quiet ι (Option Ref)
  /-- Write an attribute. -/
  setAttr : Option Ref → String → Option Ref → Quiet ι Bool
  /-- Compile source without running it; the middle argument names the source. -/
  compile : String → String → Mode → Quiet ι (Option Ref)
  /-- Whether an error is pending. -/
  errorOccurred : Quiet ι Bool
  /-- Print the pending error and drop it. -/
  printError : Quiet ι Unit
  /-- Drop the pending error. -/
  clearError : Quiet ι Unit
  /-- Make an error pending. -/
  raiseRuntimeError : String → Quiet ι Unit
  /-- Start the interpreter, unless it runs. -/
  ensureStarted : Quiet ι Unit
  /-- Run source in a namespace. -/
  runString : String → Mode → Option Ref → Exec (World ι) (Option Ref)
  /-- Run source in the main namespace and print any error; tells whether there was none. -/
  runSimple : String → Exec (World ι) Bool

namespace Quiet

variable {ι α : Type}

/-- A quiet operation as a computation of the library. -/
def run (q : Quiet ι α) : Exec (World ι) α :=
  ExceptT.mk fun w =>
    let (a, outside) := ReaderT.run q w.descriptors w.outside
    (.ok a, { w with outside })

theorem run_run (q : Quiet ι α) (w : World ι) :
    (Quiet.run q).run w =
      (.ok (ReaderT.run q w.descriptors w.outside).1,
        { w with outside := (ReaderT.run q w.descriptors w.outside).2 }) := rfl

end Quiet

/-- A text as it crosses the boundary: all of it, unless a NUL in it would end it early, and then
nothing. -/
def crossing (text : String) : String :=
  if Image.crosses text then text else ""

end ClosureBridge
