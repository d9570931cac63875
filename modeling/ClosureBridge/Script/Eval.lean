import ClosureBridge.Script.Operator
import ClosureBridge.Script.Statement
import ClosureBridge.Script.Store

/-!
# Evaluation

Evaluation follows the expression. Calling an object does not: a function has a body of its own,
and a callable of the host can do anything. The evaluator is therefore given a `Caller`, which
says how an object is called.

## Main definitions

* `Eval`: a computation of a script.
* `Caller`: how an object is called.
* `eval`: evaluate an expression.
* `execute`: execute statements.
* `invoke`: call an object, given what happens on a call of a host callable and in the body of a
  function.
-/

namespace ClosureBridge.Script

/-- A computation of a script, which may raise an error. -/
abbrev Eval (δ α : Type) := ExceptT Fault (Exec (World (Outside δ))) α

/-- How an object of an interpreter is called. -/
abbrev Caller (δ : Type) := Nat → Option Ref → List (Option Ref) → Eval δ (Option Ref)

/-- Where names are looked up. -/
structure Scope where
  globals : Option Ref
  locals : Bindings (Option Ref) := ∅

namespace Eval

variable {δ α : Type}

/-- An operation that runs no code of the host. -/
def quiet (q : Quiet (Outside δ) α) : Eval δ α :=
  ExceptT.lift q.run

/-- A computation of the library. -/
def ofExec (e : Exec (World (Outside δ)) α) : Eval δ α :=
  ExceptT.lift e

/-- Make an object. -/
def make (o : Object) : Eval δ (Option Ref) :=
  quiet (Store.alloc o)

/-- What an operator gave. -/
def ofOutcome : Operator.Outcome → Eval δ (Option Ref)
  | .object o => make o
  | .fault e => throw e
  | .overflow e => ofExec (Exec.panic (.text e.message))

end Eval

open Eval

variable {δ : Type}

/-- The object that a name stands for without being bound. -/
def constant? : String → Option Object
  | "None" => some .none
  | "True" => some (.boolean true)
  | "False" => some (.boolean false)
  | _ => none

/-- The object that a name stands for: a local, a global or a constant. -/
def lookup (scope : Scope) (name : String) : Eval δ (Option (Option Ref)) := do
  match scope.locals.get? name with
  | some r => return some r
  | none =>
    match ← quiet (Store.find scope.globals name) with
    | some r => return some r
    | none =>
      match constant? name with
      | some o => return some (← make o)
      | none => return none

/-- Call an object with each of some objects in turn. -/
def callEach (call : Caller δ) (m : Nat) (f : Option Ref) :
    List (Option Ref) → Eval δ (List (Option Ref))
  | [] => return []
  | item :: rest => do
    let r ← call m f [item]
    return r :: (← callEach call m f rest)

/-- Write objects on a line of their own, blanks between them. -/
def printLine (m : Nat) (args : List (Option Ref)) : Eval δ (Option Ref) := do
  let texts ← args.mapM fun a => quiet (Store.str a)
  quiet (Store.write m (String.intercalate " " texts))
  quiet (Store.write m "\n")
  make .none

/-- The number of characters or items of an object. -/
def length (arg : Option Ref) : Eval δ (Option Ref) := do
  match ← quiet (Store.object arg) with
  | .text s => make (.integer (Int64.ofNat s.toList.length))
  | o =>
    match o.items? with
    | some items => make (.integer (Int64.ofNat items.length))
    | none => throw (.typeError ("object of type '" ++ o.typeName ++ "' has no len()"))

/-- The results of calling an object with each item of another. -/
def mapItems (call : Caller δ) (m : Nat) (f items : Option Ref) : Eval δ (Option Ref) := do
  match (← quiet (Store.object items)).items? with
  | some items => make (.list (← callEach call m f items))
  | none => throw (.typeError "map() argument is not iterable")

/-- A new list with the items of an object. -/
def listOf (arg : Option Ref) : Eval δ (Option Ref) := do
  match (← quiet (Store.object arg)).items? with
  | some items => make (.list items)
  | none => throw (.typeError "object is not iterable")

/-- Call a built-in function. -/
def builtin (call : Caller δ) (m : Nat) (name : String) (args : List (Option Ref)) :
    Eval δ (Option Ref) :=
  match name, args with
  | "print", args => printLine m args
  | "len", [arg] => length arg
  | "len", _ => throw (.typeError "len() takes exactly one argument")
  | "map", [f, items] => mapItems call m f items
  | "map", _ => throw (.typeError "map() takes exactly two arguments")
  | "list", [arg] => listOf arg
  | "list", _ => throw (.typeError "list() takes exactly one argument")
  | "str", [arg] => do make (.text (← quiet (Store.str arg)))
  | "str", _ => throw (.typeError "str() takes exactly one argument")
  | "repr", [arg] => do make (.text (← quiet (Store.shown arg)))
  | "repr", _ => throw (.typeError "repr() takes exactly one argument")
  | name, _ => throw (.unbound name)

/-- Call a method. Only an output buffer has any. -/
def callMethod (target : Option Ref) (name : String) (args : List (Option Ref)) :
    Eval δ (Option Ref) := do
  match target, ← quiet (Store.object target) with
  | some r, .output buffer =>
    let store (b : OutputBuffer) : Eval δ Unit :=
      quiet (Store.modifyHeap fun h => h.set r (.output b))
    match name, args with
    | "write", [arg] =>
      let text ← quiet (Store.str arg)
      store (buffer.write text)
      make (.integer (Int64.ofNat text.utf8ByteSize))
    | "flush", [] => make .none
    | "value", [] => make (.text buffer.text)
    | "recent", [] =>
      match buffer.recent? with
      | some text => make (.text text)
      | none => ofExec (Exec.panic (.text "the mark is not at a character"))
    | "mark", [] =>
      store buffer.moveMark
      make .none
    | name, _ => throw (.noAttribute (Object.output buffer).typeName name)
  | _, o => throw (.noAttribute o.typeName name)

mutual

/-- Evaluate an expression. Arguments come before the callee, and objects are equal when the texts
that show them are. -/
def eval (call : Caller δ) (m : Nat) (scope : Scope) : Expr → Eval δ (Option Ref)
  | .integer n => make (.integer n)
  | .float v => make (.float v)
  | .text s => make (.text s)
  | .name x => do
    match ← lookup scope x with
    | some r => return r
    | none => throw (.unbound x)
  | .list items => do
    make (.list (← evalAll call m scope items))
  | .negate e => do
    let a ← eval call m scope e
    ofOutcome (Operator.negate (← quiet (Store.object a)))
  | .binary op a b => do
    let a ← eval call m scope a
    let b ← eval call m scope b
    ofOutcome (Operator.binary op (← quiet (Store.object a)) (← quiet (Store.object b)))
  | .equal a b => do
    let a ← eval call m scope a
    let b ← eval call m scope b
    make (.boolean ((← quiet (Store.shown a)) == (← quiet (Store.shown b))))
  | .lambda params body => make (.function params body)
  | .call callee args => do
    let values ← evalAll call m scope args
    match callee with
    | .name x =>
      match ← lookup scope x with
      | some f => call m f values
      | none => builtin call m x values
    | callee => call m (← eval call m scope callee) values
  | .method receiver name args => do
    let target ← eval call m scope receiver
    callMethod target name (← evalAll call m scope args)

/-- Evaluate expressions, in order. -/
def evalAll (call : Caller δ) (m : Nat) (scope : Scope) :
    List Expr → Eval δ (List (Option Ref))
  | [] => return []
  | e :: rest => do
    let r ← eval call m scope e
    return r :: (← evalAll call m scope rest)

end

/-- Execute a statement in a namespace. -/
def executeOne (call : Caller δ) (m : Nat) (globals : Option Ref) : Statement → Eval δ Unit
  | .assign name e => do
    let r ← eval call m ⟨globals, ∅⟩ e
    let _ ← quiet (Store.bind globals name r)
  | .raise kind message => throw ⟨kind, message⟩
  | .evaluate e => do
    let _ ← eval call m ⟨globals, ∅⟩ e

/-- Execute statements in a namespace, in order. -/
def execute (call : Caller δ) (m : Nat) (globals : Option Ref) :
    List Statement → Eval δ (Option Ref)
  | [] => make .none
  | s :: rest => do
    executeOne call m globals s
    execute call m globals rest

/-- What was read of source text, or the error that it could not be read. -/
def readable {α : Type} : Except SyntaxFault α → Eval δ α
  | .ok a => return a
  | .error e => throw e.fault

/-- Run source text in a namespace. -/
def runText (call : Caller δ) (m : Nat) (globals : Option Ref) (mode : Mode) (text : String) :
    Eval δ (Option Ref) := do
  match mode with
  | .eval => eval call m ⟨globals, ∅⟩ (← readable (Expr.ofText text.toList))
  | _ => execute call m globals (← readable (Statement.block text.toList))

/-- Call an object. A callable of the host is entered with its own object and a tuple of the
arguments, and the body of a function is evaluated in the main namespace. -/
def invoke (enter : Option Ref → Option Ref → Exec (World (Outside δ)) (Option Ref))
    (call : Caller δ) : Caller δ := fun m callable args => do
  match ← quiet (Store.object callable) with
  | .callable d self =>
    match ((← readDescriptors).all[d]?).bind Descriptor.entry with
    | none => throw (.system "callable without entry point")
    | some .router =>
      match ← ofExec (enter self (← make (.tuple args))) with
      | some r => return some r
      | none =>
        throw ((← quiet (Store.takeFault m)).getD
          (.system "error return without exception set"))
  | .function params body =>
    if params.length = args.length then
      eval call m ⟨some (← quiet (Store.machine m)).main, Bindings.ofList (params.zip args)⟩ body
    else
      throw (.typeError ("<lambda>() takes " ++ toString params.length ++
        " positional arguments but " ++ toString args.length ++ " were given"))
  | o => throw (.typeError ("'" ++ o.typeName ++ "' object is not callable"))
where
  /-- The descriptors. -/
  readDescriptors : Eval δ DescriptorPool :=
    quiet (readThe DescriptorPool)

end ClosureBridge.Script
