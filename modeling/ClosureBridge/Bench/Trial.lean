import ClosureBridge.Bench.Run

/-!
# Trials

A trial takes steps from a fresh state and tells their answers.

## Main definitions

* `Trial.budget`: the levels of nesting that a trial has.
* `Trial.answers`: the answers of steps over scripted interpreters.
* `Trial.calls`: the answers of steps over a tape, each with the calls that it made.
-/

namespace ClosureBridge.Trial

/-- The levels of nesting that a trial has. -/
def budget : Nat := 4096

/-- The name of the interpreter and of the context that a trial starts with. -/
def mainName : String := "main"

/-- The answer of a step that nests deeper than the budget. -/
def tooDeep : Json :=
  .record [("error", .text "exhausted")]

/-- Take a step and tell its answer, of which a panic that nothing within has caught is one. -/
def take (s : Step) (w : Session) : Json × Session :=
  match (Run.step (.level budget) s).run w with
  | (.ok answer, w) => (answer.json, w)
  | (.error (.panic payload), w) => (payload.json, w)
  | (.error .exhausted, w) => (tooDeep, w)

/-- Take steps and tell their answers. -/
def takeAll : List Step → Session → List Json
  | [], _ => []
  | s :: rest, w =>
    let (answer, w) := take s w
    answer :: takeAll rest w

/-- The steps that a trial over scripted interpreters starts with. -/
def opening (bound : Bool) : List Step :=
  if bound then
    [.runtime (.make mainName true), .runtime (.install mainName),
      .context mainName (.open .main mainName none none)]
  else [.runtime (.make mainName true)]

/-- The state before the first step of a trial over scripted interpreters. -/
def fresh : Session :=
  { outside := { rest := {} } }

/-- The answers of steps over scripted interpreters. -/
def answers (bound : Bool) (steps : List Step) : List Json :=
  let start := opening bound
  (takeAll (start ++ steps) fresh).drop start.length

/-- The state before the first step of a trial over a tape. -/
def freshTape (replies : Bindings (List Native.Reply)) : Session :=
  { outside := { rest := { desk := { view := .reference }, tape := { replies } } } }

/-- Take the calls that were recorded. -/
def takeCalls (w : Session) : List Json × Session :=
  let bench := w.outside.rest
  let (calls, tape) := bench.tape.takeCalls
  (calls, { w with outside := { w.outside with rest := { bench with tape } } })

/-- Take steps and tell their answers and the calls that they made. -/
def takeAllWithCalls : List Step → Session → List Json
  | [], _ => []
  | s :: rest, w =>
    let (answer, w) := take s w
    let (calls, w) := takeCalls w
    .record [("result", answer), ("calls", .list calls)] :: takeAllWithCalls rest w

/-- The answers of steps over a tape, each with the calls that it made. -/
def calls (replies : Bindings (List Native.Reply)) (steps : List Step) : List Json :=
  takeAllWithCalls steps (freshTape replies)

end ClosureBridge.Trial
