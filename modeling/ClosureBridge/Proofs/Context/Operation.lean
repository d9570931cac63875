import ClosureBridge.Proofs.Session.Levels

/-!
# Sequences of operations of contexts

What can be asked of a context, as data, so that sequences of operations can be spoken of.

## Main definitions

* `Context.Operation`, `Context.Operation.perform`: an operation, and what it does.
* `Context.Operation.hidesErrors`: an operation that drops errors and prints none.
* `Context.Operation.performAt`, `Context.after`: an operation, and a sequence of them, with a
  number of levels of nesting.
* `Interpreter.printing`: an interpreter with its printing of errors replaced.
* `Recursion.callPrinting`: calls of objects with that printing replaced, but for the closures of
  the host.

## Main statements

* `Context.Operation.perform_extends`: an operation extends where running source and handlers do.
* `Context.Operation.perform_printing`: an operation that hides errors is the same whatever printing
  them does.
-/

namespace ClosureBridge

namespace Context

/-- An operation of a context. -/
inductive Operation where
  | execute (source : String) (mode : Mode) (showErrors : Bool)
  | run (source : String) (mode : Mode)
  | compiles (source : String) (mode : Mode)
  | runSimple (source : String)
  | setGlobal (name : String) (value : Option Ref)
  | getGlobal (name : String)
  | getAttr (object : Option Ref) (name : String)
  | setAttr (object : Option Ref) (name : String) (value : Option Ref)
  | strOf (object : Option Ref)
  | reprOf (object : Option Ref)
  | capture
  | drain
  | all
  | cell (source : String) (marker : Char) (handler : Handler)

/-- What an operation gives. -/
inductive Outcome where
  | object (r : Option Ref)
  | truth (b : Bool)
  | text (s : Option String)

namespace Operation

/-- Perform an operation over an interpreter, given how handlers are run. -/
def perform (I : Interpreter Bench.Outside) (magic : Program .directive → Exec Session Directive)
    (c : Context) : Operation → Exec Session Outcome
  | execute source mode showErrors => do return .object (← c.execute I source mode showErrors)
  | run source mode => do return .object (← c.run I source mode)
  | compiles source mode => do return .truth (← Context.compiles I source mode)
  | runSimple source => do return .truth (← Context.runSimple I source)
  | setGlobal name value => do return .truth (← c.setGlobal I name value)
  | getGlobal name => do return .object (← c.getGlobal I name)
  | getAttr object name => do return .object (← Context.getAttr I object name)
  | setAttr object name value => do return .truth (← Context.setAttr I object name value)
  | strOf object => do return .text (← Context.strOf I object)
  | reprOf object => do return .text (← Context.reprOf I object)
  | capture => do return .truth (← Capture.start I c)
  | drain => do return .text (some (← Capture.drain I c))
  | all => do return .text (some (← Capture.all I c))
  | cell source marker handler => do
    let (out, _) ← Cell.run I c source marker fun directive argument =>
      magic (handler directive argument)
    return .text (some out)

/-- Whether an operation drops errors and prints none. -/
def hidesErrors : Operation → Bool
  | execute _ _ showErrors => !showErrors
  | compiles _ _ => true
  | setGlobal _ _ => true
  | getGlobal _ => true
  | getAttr _ _ => true
  | setAttr _ _ _ => true
  | _ => false

/-- Perform an operation with a number of levels of nesting. -/
def performAt (n : Nat) (c : Context) (op : Operation) : Exec Session Outcome :=
  op.perform ((Recursion.level n).machine c.machine) (Run.program (.level n)) c

/-- An operation extends where running source and handlers do. -/
theorem perform_extends {I I' : Interpreter Bench.Outside} (hI : I.Extends I')
    {magic magic' : Program .directive → Exec Session Directive}
    (hm : ∀ p, Exec.Extends (magic p) (magic' p)) (c : Context) (op : Operation) :
    Exec.Extends (op.perform I magic c) (op.perform I' magic' c) := by
  cases op with
  | execute source mode showErrors =>
    exact .bind (hI.execute c source mode showErrors) fun _ => .refl _
  | run source mode => exact .bind (hI.execute c source mode _) fun _ => .refl _
  | runSimple source => exact .bind (hI.runSimple source) fun _ => .refl _
  | capture => exact .bind (hI.start c) fun _ => .refl _
  | drain => exact .bind (hI.drain c) fun _ => .refl _
  | all => exact .bind (hI.all c) fun _ => .refl _
  | cell source marker handler =>
    exact .bind (hI.runCell c source marker fun _ _ => hm _) fun _ => .refl _
  | _ =>
    obtain ⟨-, -⟩ := hI
    exact .refl _

end Operation

/-- The state after operations, each of a context of its own. -/
def after (n : Nat) : List (Context × Operation) → Session → Session
  | [], w => w
  | (c, op) :: rest, w => after n rest ((op.performAt n c).run w).2

end Context

/-! ### The printing of errors -/

/-- An interpreter with its printing of errors replaced. -/
def Interpreter.printing {ι : Type} (I : Interpreter ι) (printError : Quiet ι Unit)
    (runSimple : String → Exec (World ι) Bool) : Interpreter ι :=
  { I with printError, runSimple }

section

variable (printError : MachineId → Quiet Bench.Outside Unit)
  (runSimple : MachineId → String → Exec Session Bool)

/-- Calls of objects over interpreters whose printing of errors is replaced. The closures of the
host keep theirs. -/
def Recursion.callPrinting : Nat → Script.Caller Bench
  | 0 => fun _ _ _ => ExceptT.lift Exec.exhausted
  | n + 1 =>
    Script.invoke
      (Dispatch.dispatch
        (fun m => (Bench.machine (callPrinting n) m).printing (printError m) (runSimple m))
        (level n).host)
      (callPrinting n)

/-- Neither scripts nor the router print errors. -/
theorem Recursion.callPrinting_eq (n : Nat) :
    callPrinting printError runSimple n = (level n).call := by
  induction n with
  | zero => rfl
  | succ n ih =>
    rw [callPrinting, ih]
    rfl

/-- An operation that hides errors is the same whatever printing them does. -/
theorem Context.Operation.perform_printing (n : Nat)
    (magic : Program .directive → Exec Session Directive) (c : Context) {op : Operation}
    (h : op.hidesErrors = true) :
    op.perform ((Bench.machine (Recursion.callPrinting printError runSimple n) c.machine).printing
        (printError c.machine) (runSimple c.machine)) magic c =
      op.perform ((Recursion.level n).machine c.machine) magic c := by
  rw [Recursion.callPrinting_eq]
  cases op with
  | execute source mode showErrors =>
    cases showErrors with
    | false => rfl
    | true => cases h
  | compiles source mode => rfl
  | setGlobal name value => rfl
  | getGlobal name => rfl
  | getAttr object name => rfl
  | setAttr object name value => rfl
  | _ => cases h

end

end ClosureBridge
