import ClosureBridge.Marshal

/-!
# The router

Every callable has the same entry point. The object it is called with is the text of an
identifier, and the router finds the closure by it.

## Main definitions

* `Dispatch.route`: find the closure, unpack the arguments, call it and build the result.
* `Dispatch.dispatch`: the same, with a panic turned into a pending error.
-/

namespace ClosureBridge.Dispatch

variable {ι : Type}

/-- What the interpreter is told about a panic. -/
def panicText : Payload → String
  | .text message => message
  | .other => "unknown panic payload"

/-- The interpreter that is bound. -/
def current : Exec (World ι) (Except BindError MachineId) := do
  match (← get).bound with
  | some m => return .ok m
  | none => return .error .notBound

/-- A call of an identifier that is not registered. -/
def miss (I : Interpreter ι) : Exec (World ι) (Option Ref) := do
  World.count fun s => { s with misses := s.misses + 1 }
  (Marshal.buildNone I).run

/-- Arguments or a result that could not cross the boundary. -/
def argumentError : Exec (World ι) (Option Ref) := do
  World.count fun s => { s with argumentErrors := s.argumentErrors + 1 }
  return none

/-- Answer a call. The shape and the closure are those registered when the call arrives, whatever
the closure does to the registry. -/
def route (machine : MachineId → Interpreter ι) (host : Program .value → Exec (World ι) HostValue)
    (self args : Option Ref) : Exec (World ι) (Option Ref) := do
  let .ok m ← current | return none
  let I := machine m
  let some id ← (I.textOf self).run | miss I
  let some (shape, call) := (← get).call? id | miss I
  let .ok arguments ← (Marshal.parseIn I args shape.input).run | argumentError
  let value ← host (call arguments)
  match ← (Marshal.buildOut I value shape.output).run with
  | some out => return some out
  | none => argumentError

/-- Answer a call; a panic becomes a pending error. -/
def dispatch (machine : MachineId → Interpreter ι)
    (host : Program .value → Exec (World ι) HostValue) (self args : Option Ref) :
    Exec (World ι) (Option Ref) := do
  World.count fun s => { s with calls := s.calls + 1 }
  match ← Exec.catchPanic (route machine host self args) with
  | .ok out => return out
  | .error payload =>
    World.count fun s => { s with panics := s.panics + 1 }
    if let .ok m ← current then
      ((machine m).raiseRuntimeError
        (crossing ("Host closure panicked: " ++ panicText payload))).run
    return none

end ClosureBridge.Dispatch
