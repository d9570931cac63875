import ClosureBridge.Bench.Perform

/-!
# Host programs, run

Programs of the host are run by recursion on them. What is called in between, an object or a
closure, is run one level of nesting further down, and there is a budget of levels.

## Main definitions

* `Run.program`, `Run.step`: run a program, and take a step.
* `Recursion.level`: what happens on a call, with a number of levels left.
-/

namespace ClosureBridge

namespace Run

variable (r : Recursion)

mutual

/-- Run a program of the host. -/
def program {t : Task} : Program t → Exec Session t.Result
  | .done result => return result
  | .panic payload => Exec.panic payload
  | .build term k => do program (k (← Bench.object term))
  | .lookup id args k => do
    match (← get).call? id with
    | none => program (k none)
    | some (_, call) => do program (k (some (← r.host (call args))))
  | .execute name source mode showErrors k => do
    let c ← Bench.contextNamed name
    program (k (← c.execute (r.machine c.machine) source mode showErrors))
  | .unregister id k => do program (k (← World.unregister ⟨id⟩))
  | .step s k => do program (k ((← Exec.catchPanic (step s)).map Answer.json))

/-- Take a step. -/
def step : Step → Exec Session Answer
  | .saving name s => do
    let answer ← step s
    Bench.save name answer.object
    return answer
  | .runtime request => Perform.runtime r request
  | .context name request => Perform.context r name request
  | .inspect name request => Perform.inspect r name request
  | .interface name request => Perform.interface r name request
  | .marshal name request => Perform.marshal r name request
  | .handle request => Perform.handle r request
  | .registry request => Perform.registry r request
  | .expose name how shape call => do
    Answer.ofExcept LambdaError.report
      (fun n => do
        Bench.keepLambda name n
        return .plain (← Answer.lambdaJson n))
      (← Perform.expose r how shape call)
  | .register id shape call => Perform.register id shape call
  | .scoped how shape call body => do
    Answer.ofExcept LambdaError.report
      (fun n => Perform.withLambda r n do return .plain (← program body))
      (← Perform.expose r how shape call)
  | .scopedName name body => do
    match (← Bench.getDesk).lambdas.get? name with
    | none => return Perform.gone
    | some n =>
      Bench.dropLambda name
      Perform.withLambda r n do return .plain (← program body)
  | .cell name source marker handler => do
    let c ← Bench.contextNamed name
    match handler with
    | none => Perform.cell r c source marker none
    | some handler =>
      Perform.cell r c source marker (some fun directive argument =>
        program (handler directive argument))

end

end Run

/-- What happens on a call, with a number of levels of nesting left. -/
def Recursion.level : Nat → Recursion
  | 0 => ⟨fun _ _ _ => ExceptT.lift Exec.exhausted, fun _ => Exec.exhausted⟩
  | n + 1 =>
    { call := fun m f args => Script.invoke (level n).enter (level n).call m f args
      host := fun p => Run.program (level n) p }

end ClosureBridge
