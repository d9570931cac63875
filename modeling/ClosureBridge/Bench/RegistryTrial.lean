import ClosureBridge.Bench.Trial

/-!
# Trials of a registry of its own

## Main definitions

* `RegistryStep`: an operation on a registry.
* `RegistryTrial.answers`: the answers of operations, from an empty registry on.
-/

namespace ClosureBridge

/-- An operation on a registry. -/
inductive RegistryStep where
  | insert (id : String) (shape : Shape) (call : Closure)
  | remove (id : String)
  | get (id : String)
  | call (id : String) (args : Arguments)
  | contains (id : String)
  | idsFor (shape : Shape)
  | size
  /-- Start again with an empty registry. -/
  | reset

namespace RegistryTrial

/-- A shape that may be missing. -/
def shapeJson (s : Option Shape) : Json :=
  Json.optional (fun s => .text s.display) s

/-- The registry on trial, and the session that its closures act on, which has a registry of its
own. -/
structure State where
  registry : Registry Closure := {}
  session : Session := Trial.fresh

/-- Call a closure: its answer, and the session after it. -/
def callIn (w : Session) (call : Closure) (args : Arguments) : Json × Session :=
  match (Run.program (.level Trial.budget) (call args)).run w with
  | (.ok v, w) => (Answer.tokenJson v, w)
  | (.error (.panic payload), w) => (payload.json, w)
  | (.error .exhausted, w) => (Trial.tooDeep, w)

/-- Insert a closure under a text that has to be an identifier. -/
def insertJson (r : Registry Closure) (text : String) (shape : Shape) (call : Closure) :
    Json × Registry Closure :=
  match Ident.ofText? text with
  | none => (Answer.reportJson ⟨"InvalidIdentifier", text⟩, r)
  | some id =>
    match r.insert id shape call with
    | .ok r => (.text "ok", r)
    | .error e => (Answer.reportJson e.report, r)

/-- Perform an operation: its answer, and the state after it. -/
def step (s : State) : RegistryStep → Json × State
  | .insert id shape call =>
    let (answer, r) := insertJson s.registry id shape call
    (answer, { s with registry := r })
  | .remove id =>
    let (shape, r) := s.registry.remove ⟨id⟩
    (shapeJson shape, { s with registry := r })
  | .get id => (shapeJson ((s.registry.get? ⟨id⟩).map (·.1)), s)
  | .call id args =>
    match s.registry.get? ⟨id⟩ with
    | none => (.null, s)
    | some (_, call) =>
      let (answer, w) := callIn s.session call args
      (answer, { s with session := w })
  | .contains id => (.bool (s.registry.contains ⟨id⟩), s)
  | .idsFor shape => (Json.texts ((s.registry.idsFor shape).map Ident.text), s)
  | .size =>
    let r := s.registry
    (.record [("len", .count r.size), ("empty", .bool r.isEmpty), ("slots", .count r.slots.size)],
      s)
  | .reset => (.text "ok", { s with registry := {} })

/-- The answers of operations, from a given state on. -/
def answersFrom : State → List RegistryStep → List Json
  | _, [] => []
  | s, op :: rest =>
    let (answer, s) := step s op
    answer :: answersFrom s rest

/-- The answers of operations, from an empty registry on. -/
def answers (steps : List RegistryStep) : List Json :=
  answersFrom {} steps

end RegistryTrial

end ClosureBridge
