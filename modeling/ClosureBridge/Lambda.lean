import ClosureBridge.Dispatch

/-!
# Exposing closures

A lambda is a closure exposed to an interpreter. It is released explicitly, because the
interpreter cannot tell the host when it drops its last reference; a lambda that is never released
keeps its entry and its descriptor, so callables that the interpreter still holds go on working.

## Main definitions

* `Lambda.create`: expose a closure in an interpreter under an identifier.
* `Lambda.expose`, `Lambda.exposeAs`, `Lambda.exposeUntyped`: expose a closure in the interpreter
  that is bound.
* `Lambda.release`: end the exposure.
* `Lambda.withRelease`: run a computation and release a lambda whichever way it ends.
-/

namespace ClosureBridge.Lambda

variable {ι : Type}

/-- Expose a closure. When a stage fails, what the stages before it took is given back. -/
def create (machine : MachineId → Interpreter ι) (m : MachineId) (id : Ident) (shape : Shape)
    (call : Closure) : Exec (World ι) (Except LambdaError Nat) := do
  let I := machine m
  match ← (I.newText id.crossing).run with
  | .error e => return .error (.bind e)
  | .ok none =>
    I.clearError.run
    return .error (.callableConstruction id)
  | .ok (some self) =>
    match ← World.register id shape call with
    | .error e =>
      (I.decref self).run
      return .error (.ofRegistry e)
    | .ok () =>
      let descriptor ← World.acquireDescriptor id
      let made ← (I.newCallable descriptor self).run
      (I.decref self).run
      match made with
      | none =>
        I.clearError.run
        let _ ← World.unregister id
        World.releaseDescriptor descriptor
        return .error (.callableConstruction id)
      | some callable =>
        modifyGet fun w =>
          (.ok w.lambdas.size,
            { w with lambdas := w.lambdas.push ⟨id, shape, call, m, callable, some descriptor⟩ })

/-- Expose a closure under a fresh identifier. -/
def expose (machine : MachineId → Interpreter ι) (shape : Shape) (call : Closure) :
    Exec (World ι) (Except LambdaError Nat) := do
  match ← Dispatch.current with
  | .error e => return .error (.bind e)
  | .ok m => create machine m (← World.drawLambdaId) shape call

/-- Expose a closure under an identifier chosen by the host. -/
def exposeAs (machine : MachineId → Interpreter ι) (text : String) (shape : Shape)
    (call : Closure) : Exec (World ι) (Except LambdaError Nat) := do
  match Ident.ofText? text with
  | none => return .error (.invalidIdentifier text)
  | some id =>
    match ← Dispatch.current with
    | .error e => return .error (.bind e)
    | .ok m => create machine m id shape call

/-- Expose a closure that tells its shape only at run time. -/
def exposeUntyped (machine : MachineId → Interpreter ι) (shape : Shape) (call : Closure) :
    Exec (World ι) (Except LambdaError Nat) := do
  if shape.isSupported then expose machine shape call
  else return .error (.unsupportedShape shape)

/-- End the exposure of a lambda; tells whether it had not ended before. -/
def release (machine : MachineId → Interpreter ι) (n : Nat) : Exec (World ι) Bool := do
  match (← get).lambdas[n]? with
  | some l =>
    match l.descriptor with
    | some descriptor =>
      modify fun w => { w with lambdas := w.lambdas.setIfInBounds n { l with descriptor := none } }
      let _ ← World.unregister l.id
      World.releaseDescriptor descriptor
      ((machine l.machine).decref l.callable).run
      return true
    | none => return false
  | none => return false

/-- Run a computation and release a lambda, also when the computation panics. -/
def withRelease {α : Type} (machine : MachineId → Interpreter ι) (n : Nat)
    (body : Exec (World ι) α) : Exec (World ι) α :=
  body.andFinally do
    let _ ← release machine n

/-- A lambda in diagnostics. -/
def describe (l : Lambda) : String :=
  "Lambda \x7b id: LambdaId(" ++ Quoted.text l.id.text ++ "), shape: " ++ l.shape.describe ++
    ", released: " ++ (if l.descriptor.isNone then "true" else "false") ++ " \x7d"

end ClosureBridge.Lambda
