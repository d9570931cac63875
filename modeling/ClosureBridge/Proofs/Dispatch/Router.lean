import ClosureBridge.Proofs.Session.Runs

/-!
# The router, run

What a call of the router does to the state, piece by piece, when the interpreter that is bound is a
scripted one.

## Main definitions

* `Session.pending`: the error that an interpreter has pending.
* `Dispatch.found?`: what is registered under the text of an object.
* `Dispatch.unpacked`: the arguments in a tuple, or the error that the tuple is refused with.
* `Dispatch.placed`: the object that a value is built into.
* `Dispatch.serve`, `Dispatch.guarded`: a call served with a closure, and the care around it.

## Main statements

* `Dispatch.run_dispatch_of_found`: a call for which something is registered is served with it.
* `Dispatch.run_dispatch_of_missed`: what becomes of a call for which nothing is registered.
-/

namespace ClosureBridge

open Script (Fault Object)

namespace Session

/-- The error that a scripted interpreter has pending. -/
def pending (w : Session) (k : Nat) : Option Fault :=
  (w.outside.store.machines[k]?).bind Script.Machine.pending

/-- The state after a scripted interpreter has got an error pending. -/
def raising (w : Session) (k : Nat) (e : Fault) : Session :=
  { w with outside := (ReaderT.run (Script.Store.raise k e) w.descriptors w.outside).2 }

/-- The state after an object has been made. -/
def making (w : Session) (o : Object) : Session :=
  { w with outside := (ReaderT.run (Script.Store.alloc o) w.descriptors w.outside).2 }

/-- The state after the router has counted. -/
def counted (w : Session) (f : Stats → Stats) : Session :=
  { w with stats := f w.stats }

theorem pending_raising {w : Session} {k : Nat} (hk : k < w.outside.store.machines.size)
    (e : Fault) : (w.raising k e).pending k = some e := by
  change ((w.outside.store.machines.modify k _)[k]?).bind _ = _
  rw [Array.getElem?_modify, if_pos rfl, Array.getElem?_eq_getElem hk]
  rfl

@[simp] theorem pending_making (w : Session) (o : Object) (k : Nat) :
    (w.making o).pending k = w.pending k := rfl

@[simp] theorem pending_counted (w : Session) (f : Stats → Stats) (k : Nat) :
    (w.counted f).pending k = w.pending k := rfl

end Session

namespace Dispatch

/-- What is registered under the text of an object. -/
def found? (w : Session) (self : Option Ref) : Option (Shape × Closure) :=
  match w.outside.store.heap.get self with
  | .text id => w.call? id
  | _ => none

/-- The arguments of a kind in a tuple, or the error that the tuple is refused with. -/
def unpacked (w : Session) (args : Option Ref) (kind : InputKind) : Except Fault Arguments :=
  match Script.Unpack.tuple w.outside.store.heap args kind.format with
  | .error e => .error e
  | .ok parts =>
    match Marshal.arrange kind parts with
    | some arguments => .ok arguments
    | none => .error (.runtime (crossing (ArgumentError.mismatch kind).message))

/-- The object that a value is built into, and the state after that. -/
def placed (w : Session) : Built → Ref × Session
  | .object r => (r, w)
  | v => (w.outside.store.heap.objects.size, w.making ((Object.ofBuilt? v).getD .none))

/-- The state at entry: the call is counted. -/
def entered (w : Session) : Session :=
  w.counted fun s => { s with calls := s.calls + 1 }

/-- What the interpreter is told when a closure panics. -/
def panicFault (payload : Payload) : Fault :=
  .runtime (crossing ("Host closure panicked: " ++ panicText payload))

section

variable {rc : Script.Caller Bench} {k : Nat} {w : Session}

theorem run_current {m : MachineId} (hb : w.bound = some m) :
    (current : Exec Session _).run w = (.ok (.ok m), w) := by
  unfold current
  rw [Exec.run_get_bind, hb]
  rfl

theorem run_miss :
    (miss (Bench.machine rc (.scripted k))).run w =
      (.ok (some w.outside.store.heap.objects.size),
        (w.counted fun s => { s with misses := s.misses + 1 }).making .none) := rfl

theorem run_argumentError :
    (argumentError : Exec Session _).run w =
      (.ok none, w.counted fun s => { s with argumentErrors := s.argumentErrors + 1 }) := rfl

theorem run_textOf (self : Option Ref) :
    ((Bench.machine rc (.scripted k)).textOf self).run.run w =
      (.ok (match w.outside.store.heap.get self with | .text s => some s | _ => none), w) := by
  have h : ReaderT.run (Script.textOf self) w.descriptors w.outside =
      (match w.outside.store.heap.get self with | .text s => some s | _ => none, w.outside) := by
    change ReaderT.run (match w.outside.store.heap.get self with
      | .text s => return some s
      | _ => return none : Quiet Bench.Outside (Option String)) _ _ = _
    cases w.outside.store.heap.get self <;> rfl
  exact congrArg (fun r => ((.ok r.1, { w with outside := r.2 }) : Except Stop _ × Session)) h

theorem run_parseTuple (args : Option Ref) (format : TupleFormat) :
    ReaderT.run ((Bench.machine rc (.scripted k)).parseTuple args format) w.descriptors w.outside =
      match Script.Unpack.tuple w.outside.store.heap args format with
      | .ok parts => (some parts, w.outside)
      | .error e => (none, (w.raising k e).outside) := by
  change ReaderT.run (match Script.Unpack.tuple w.outside.store.heap args format with
    | .ok parts => return some parts
    | .error e => do
      Script.Store.raise k e
      return none : Quiet Bench.Outside (Option Unpacked)) _ _ = _
  cases Script.Unpack.tuple w.outside.store.heap args format <;> rfl

theorem run_parseIn (args : Option Ref) (kind : InputKind) :
    (Marshal.parseIn (Bench.machine rc (.scripted k)) args kind).run.run w =
      match unpacked w args kind with
      | .ok arguments => (.ok (.ok arguments), w)
      | .error e => (.ok (.error (.mismatch kind)), w.raising k e) := by
  have hu : ReaderT.run ((Bench.machine rc (.scripted k)).parseTuple args kind.format) _ _ = _ :=
    run_parseTuple (w := w) args kind.format
  unfold Marshal.parseIn unpacked
  rw [Quiet.run_run, Quiet.run_bind, hu]
  cases Script.Unpack.tuple w.outside.store.heap args kind.format with
  | error e => rfl
  | ok parts =>
    dsimp only
    cases Marshal.arrange kind parts <;> rfl

theorem run_buildOut (v : HostValue) (target : OutputKind) :
    (Marshal.buildOut (Bench.machine rc (.scripted k)) v target).run.run w =
      match Marshal.prepare v target with
      | .ok built => (.ok (some (placed w built).1), (placed w built).2)
      | .error e => (.ok none, w.raising k (.runtime (crossing e.message))) := by
  unfold Marshal.buildOut
  cases Marshal.prepare v target with
  | error e => rfl
  | ok built => cases built <;> rfl

/-- The rest of a call once the closure has given its result. -/
def finish (I : Interpreter Bench.Outside) (target : OutputKind) (v : HostValue) :
    Exec Session (Option Ref) := do
  match ← (Marshal.buildOut I v target).run with
  | some out => return some out
  | none => argumentError

theorem run_finish (v : HostValue) (target : OutputKind) :
    (finish (Bench.machine rc (.scripted k)) target v).run w =
      match Marshal.prepare v target with
      | .ok built => (.ok (some (placed w built).1), (placed w built).2)
      | .error e => (.ok none, (w.raising k (.runtime (crossing e.message))).counted fun s =>
          { s with argumentErrors := s.argumentErrors + 1 }) := by
  unfold finish
  rw [Exec.run_bind, run_buildOut]
  cases Marshal.prepare v target <;> rfl

variable {host : Program .value → Exec Session HostValue} {self args : Option Ref}

/-- Serve a call with a closure: unpack the arguments, call it and build the result. -/
def serve (I : Interpreter Bench.Outside) (host : Program .value → Exec Session HostValue)
    (args : Option Ref) (shape : Shape) (call : Closure) : Exec Session (Option Ref) := do
  let .ok arguments ← (Marshal.parseIn I args shape.input).run | argumentError
  finish I shape.output (← host (call arguments))

theorem run_serve (shape : Shape) (call : Closure) :
    (serve (Bench.machine rc (.scripted k)) host args shape call).run w =
      match unpacked w args shape.input with
      | .error e => argumentError.run (w.raising k e)
      | .ok arguments =>
        (host (call arguments) >>= finish (Bench.machine rc (.scripted k)) shape.output).run w := by
  unfold serve
  rw [Exec.run_bind, run_parseIn]
  cases unpacked w args shape.input <;> rfl

/-- The router serves a call with what is found for it. -/
theorem run_route (hb : w.bound = some (.scripted k)) :
    (route (Bench.machine rc) host self args).run w =
      match found? w self with
      | none => (miss (Bench.machine rc (.scripted k))).run w
      | some (shape, call) =>
        (serve (Bench.machine rc (.scripted k)) host args shape call).run w := by
  unfold route
  rw [Exec.run_bind_of_ok (run_current hb)]
  dsimp only
  rw [Exec.run_bind_of_ok (run_textOf self)]
  unfold found?
  cases w.outside.store.heap.get self with
  | text id =>
    dsimp only
    rw [Exec.run_get_bind]
    cases w.call? id with
    | none => rfl
    | some found => rfl
  | _ => rfl

/-- Count a call, and turn a panic of what serves it into a pending error. -/
def guarded (machine : MachineId → Interpreter Bench.Outside) (body : Exec Session (Option Ref)) :
    Exec Session (Option Ref) := do
  World.count fun s => { s with calls := s.calls + 1 }
  match ← Exec.catchPanic body with
  | .ok out => return out
  | .error payload =>
    World.count fun s => { s with panics := s.panics + 1 }
    if let .ok m ← current then
      ((machine m).raiseRuntimeError
        (crossing ("Host closure panicked: " ++ panicText payload))).run
    return none

theorem dispatch_eq (machine : MachineId → Interpreter Bench.Outside) :
    dispatch machine host self args = guarded machine (route machine host self args) := rfl

variable {body : Exec Session (Option Ref)}

theorem run_guarded :
    (guarded (Bench.machine rc) body).run w =
      match body.run (entered w) with
      | (.ok out, v) => (.ok out, v)
      | (.error (.panic payload), v) => (do
          if let .ok m ← current then
            ((Bench.machine rc m).raiseRuntimeError
              (crossing ("Host closure panicked: " ++ panicText payload))).run
          return none : Exec Session (Option Ref)).run
            (Session.counted v fun s => { s with panics := s.panics + 1 })
      | (.error .exhausted, v) => (.error .exhausted, v) := by
  unfold guarded
  have hc : (World.count fun s => { s with calls := s.calls + 1 } : Exec Session Unit).run w =
    (.ok (), entered w) := rfl
  rw [Exec.run_bind_of_ok hc, Exec.run_bind, Exec.run_catchPanic]
  rcases body.run (entered w) with ⟨(_ | _) | out, v⟩ <;> rfl

theorem run_guarded_of_ok {out : Option Ref} {v : Session}
    (hr : body.run (entered w) = (.ok out, v)) :
    (guarded (Bench.machine rc) body).run w = (.ok out, v) := by
  rw [run_guarded, hr]

/-- A panic is told to the interpreter that is bound when it is caught. -/
theorem run_guarded_of_panic {payload : Payload} {left : Session}
    (hr : body.run (entered w) = (.error (.panic payload), left))
    (hb : left.bound = some (.scripted k)) :
    (guarded (Bench.machine rc) body).run w =
      (.ok none, (left.counted fun s => { s with panics := s.panics + 1 }).raising k
        (panicFault payload)) := by
  have hb' : (left.counted fun s => { s with panics := s.panics + 1 }).bound =
    some (.scripted k) := hb
  rw [run_guarded, hr]
  dsimp only
  rw [Exec.run_bind_of_ok (run_current hb')]
  rfl

/-- A call for which something is registered is served with it. -/
theorem run_dispatch_of_found (hb : w.bound = some (.scripted k)) {shape : Shape} {call : Closure}
    (hf : found? w self = some (shape, call)) :
    (dispatch (Bench.machine rc) host self args).run w =
      (guarded (Bench.machine rc)
        (serve (Bench.machine rc (.scripted k)) host args shape call)).run w := by
  have hb' : (entered w).bound = some (.scripted k) := hb
  have hf' : found? (entered w) self = some (shape, call) := hf
  rw [dispatch_eq, run_guarded, run_guarded, run_route hb', hf']

/-- A call for which nothing is registered is counted as missed and answered with the object that
stands for none. -/
theorem run_dispatch_of_missed (hb : w.bound = some (.scripted k)) (hf : found? w self = none) :
    (dispatch (Bench.machine rc) host self args).run w =
      (.ok (some w.outside.store.heap.objects.size),
        ((entered w).counted fun s => { s with misses := s.misses + 1 }).making .none) := by
  have hb' : (entered w).bound = some (.scripted k) := hb
  have hf' : found? (entered w) self = none := hf
  rw [dispatch_eq]
  refine run_guarded_of_ok ?_
  rw [run_route hb', hf']
  exact run_miss

end

end Dispatch

end ClosureBridge
