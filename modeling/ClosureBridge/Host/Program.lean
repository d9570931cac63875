import ClosureBridge.Exec
import ClosureBridge.Host.Request
import ClosureBridge.Json

/-!
# Host programs

Code of the host is modelled by what it does to the library: a tree of requests, each followed by
what the code does with the answer. A closure is a function from arguments to such a tree, so a
closure can be any code at all: it may look closures up, run source, expose further closures,
release them, and panic.

## Main definitions

* `Task`: what a program is for, and hence what it ends with.
* `Program`: a host program.
* `Step`: a request, code of the host included.
* `Closure`: a closure.
* `Program.bind`: one program after another.
* `Program.proceed`: a step whose panic goes on.
* `Program.steps`: the steps of a list, one after another, each of which may panic.
* `Payload.json`: a panic in answers.
-/

namespace ClosureBridge

/-- A panic in answers. A payload that is no text is not told. -/
def Payload.json (payload : Payload) : Json :=
  .record [("error", .text "panic"),
    ("message", .text (match payload with | .text m => m | .other => "unknown"))]

/-- What a magic line turns into. -/
structure Directive where
  /-- Source that takes the place of the line. -/
  code : Option String := none
  /-- Text that is added to the output of the cell. -/
  inline : Option String := none
  /-- Answers that the handler wants reported. -/
  notes : List Json := []

/-- What a host program is for. -/
inductive Task where
  /-- The body of a closure. -/
  | value
  /-- The body of a typed closure. -/
  | typed (kind : OutputKind)
  /-- The handler of a magic line. -/
  | directive
  /-- Any other code. -/
  | answer
  deriving DecidableEq

namespace Task

/-- What a program for a task ends with. -/
def Result : Task → Type
  | value => HostValue
  | typed kind => kind.Carrier
  | directive => Directive
  | answer => Json

end Task

/-- How a lambda is exposed. -/
inductive Exposure where
  /-- A typed closure, under a fresh identifier. -/
  | fresh
  /-- A typed closure, under an identifier chosen by the host. -/
  | withId (id : String)
  /-- An untyped closure, whose shape has to be supported. -/
  | untyped
  /-- Any closure, in a given interpreter. -/
  | inMachine (machine : String)

mutual

/-- A program of the host. -/
inductive Program : Task → Type where
  | done {t : Task} (r : t.Result) : Program t
  | panic {t : Task} (payload : Payload) : Program t
  /-- Have an object that a term stands for. -/
  | build {t : Task} (term : Term) (k : Option Ref → Program t) : Program t
  /-- Look a closure up and call it. -/
  | lookup {t : Task} (id : String) (args : Arguments) (k : Option HostValue → Program t) :
      Program t
  /-- Run source in a context. -/
  | execute {t : Task} (context source : String) (mode : Mode) (showErrors : Bool)
      (k : Option Ref → Program t) : Program t
  /-- Take a closure out of the registry. -/
  | unregister {t : Task} (id : String) (k : Bool → Program t) : Program t
  /-- Take a step, and hear its answer or the panic that it ended with. -/
  | step {t : Task} (s : Step) (k : Except Payload Json → Program t) : Program t

/-- A step of the host. -/
inductive Step : Type where
  /-- A step whose object, unless it is missing, is kept under a name. -/
  | saving (name : String) (s : Step)
  | runtime (r : RuntimeRequest)
  | context (name : String) (r : ContextRequest)
  | inspect (machine : String) (r : InspectRequest)
  | interface (machine : String) (r : InterfaceRequest)
  | marshal (machine : String) (r : MarshalRequest)
  | handle (r : HandleRequest)
  | registry (r : RegistryRequest)
  /-- Expose a closure and keep the lambda under a name. -/
  | expose (name : String) (how : Exposure) (shape : Shape) (call : Arguments → Program .value)
  /-- Register a closure directly. -/
  | register (id : String) (shape : Shape) (call : Arguments → Program .value)
  /-- Expose a closure for the length of a program. -/
  | scoped (how : Exposure) (shape : Shape) (call : Arguments → Program .value)
      (body : Program .answer)
  /-- Release a lambda kept under a name at the end of a program. -/
  | scopedName (name : String) (body : Program .answer)
  /-- Run a cell. -/
  | cell (context source : String) (marker : Option Char)
      (handler : Option (String → String → Program .directive))

end

/-- A closure of the host. -/
abbrev Closure := Arguments → Program .value

namespace Program

/-- One program, and another that goes on from its result. -/
def bind {t u : Task} : Program t → (t.Result → Program u) → Program u
  | done r, f => f r
  | panic payload, _ => panic payload
  | build term k, f => build term fun a => (k a).bind f
  | lookup id args k, f => lookup id args fun a => (k a).bind f
  | execute context source mode showErrors k, f =>
    execute context source mode showErrors fun a => (k a).bind f
  | unregister id k, f => unregister id fun a => (k a).bind f
  | step s k, f => step s fun a => (k a).bind f

@[simp] theorem done_bind {t u : Task} (r : t.Result) (f : t.Result → Program u) :
    (done r : Program t).bind f = f r := rfl

/-- Take a step and go on with its answer; a panic goes on. -/
def proceed {t : Task} (s : Step) (k : Json → Program t) : Program t :=
  step s fun outcome =>
    match outcome with
    | .ok answer => k answer
    | .error payload => panic payload

/-- The answer of a step, of which a panic may be one. -/
def told : Except Payload Json → Json
  | .ok answer => answer
  | .error payload => payload.json

/-- Take the steps of a list and go on with their answers. A panic is the answer of its step, and
the steps after it are taken. -/
def steps {t : Task} : List Step → List Json → (List Json → Program t) → Program t
  | [], answers, k => k answers.reverse
  | s :: rest, answers, k => step s fun outcome => steps rest (told outcome :: answers) k

end Program

end ClosureBridge
