import ClosureBridge.Bench.Answer
import ClosureBridge.Cell
import ClosureBridge.Host.Closure
import ClosureBridge.Session

/-!
# Steps that carry no code of the host

## Main definitions

* `Recursion`: what happens when an object is called, and when a closure is.
* `Perform.runtime`, `Perform.context`, `Perform.inspect`, `Perform.interface`, `Perform.marshal`,
  `Perform.handle`, `Perform.registry`: perform the requests of each family.
* `Perform.expose`: expose a closure.
-/

namespace ClosureBridge

/-- What happens when an object is called, and when a closure of the host is. -/
structure Recursion where
  call : Script.Caller Bench
  host : Program .value → Exec Session HostValue

namespace Recursion

/-- The interpreters. -/
def machine (r : Recursion) : MachineId → Interpreter Bench.Outside :=
  Bench.machine r.call

/-- The entry point of all callables. -/
def enter (r : Recursion) (self args : Option Ref) : Exec Session (Option Ref) :=
  Dispatch.dispatch r.machine r.host self args

end Recursion

namespace Perform

open Bench

variable (r : Recursion)

/-- Keep the interpreter that is bound under a name. -/
def keepBound (name : String) : Exec Session Answer := do
  if let some m := (← get).bound then keepMachine name m
  return .done

/-- The names of an interpreter, sorted. -/
def namesOf (m : MachineId) : Exec Session (List String) := do
  let names := ((← getDesk).machines.entries.filter fun e => e.2 = m).map (·.1)
  return names.mergeSort fun a b => a < b || a = b

/-- Open the image at a path and go on with it. -/
def withImage (path : String) (shelf : Shelf) (f : Image → Exec Session Answer) :
    Exec Session Answer :=
  match Image.openPath shelf path with
  | .error e => return .ofReport e.report
  | .ok image => f image

/-- Perform a request about interpreters and the binding. -/
def runtime : RuntimeRequest → Exec Session Answer
  | .make name textConstructor => do
    let n ← (Script.Store.addMachine textConstructor).run
    keepMachine name (.scripted n)
    return .done
  | .install name => do return .ofBool (← Binding.install (← machineNamed name))
  | .isBound => do return .ofBool (← Binding.isBound)
  | .current => do
    Answer.ofExcept BindError.report (fun m => do return .plain (Json.texts (← namesOf m)))
      (← Dispatch.current)
  | .load name library environment autoStart shelf => do
    let config : RuntimeConfig := { library, autoStart }
    Answer.ofExcept BindError.report (fun _ => keepBound name)
      (← Binding.load r.machine resolve config environment shelf)
  | .bind name path shelf =>
    withImage path shelf fun image => do
      Answer.ofExcept BindError.report (fun _ => keepBound name)
        (← Binding.ofImage resolve image)
  | .resolve name path shelf =>
    withImage path shelf fun image => do
      match ← resolve image with
      | .error e => return .ofReport e.report
      | .ok m =>
        keepMachine name m
        return .ofText (Native.Symbols.describe image
          (image.symbols.contains Native.Symbols.constructor))
  | .begin name config date environment shelf => do
    match ← Session.begin r.machine resolve config date environment shelf with
    | .error e => return .ofError e
    | .ok c =>
      keepContext name c
      return .plain (.record [("marker", .text c.marker.toString), ("owns_logging", .bool false),
        ("same", .bool true), ("debug", .text (Session.describe c (← c.isCapturing)))])

/-- Open a context. -/
def openContext (kind : ContextKind) (machineName : String) :
    Exec Session (Except BindError Context) := do
  match kind with
  | .main => Context.main r.machine
  | .ofMachine => Context.ofMachine r.machine (← machineNamed machineName)
  | .isolated => Context.isolated r.machine (← machineNamed machineName)

/-- A text that may be missing. -/
def textOrNull (s : Option String) : Answer :=
  .plain (Json.optional Json.text s)

/-- Perform a request to a context that is open. -/
def inContext (c : Context) (request : ContextRequest) : Exec Session Answer := do
  let I := r.machine c.machine
  match request with
  | .open .. => return .done
  | .describe => return .ofText (c.describe (← c.isCapturing))
  | .errorOccurred => return .ofBool (← I.errorOccurred.run)
  | .execute source mode showErrors =>
    Answer.ofObject (← c.execute I source mode showErrors)
  | .run source mode => Answer.ofObject (← c.run I source mode)
  | .compiles source mode => return .ofBool (← Context.compiles I source mode)
  | .runSimple source => return .ofBool (← Context.runSimple I source)
  | .setGlobal name value => return .ofBool (← c.setGlobal I name (← object value))
  | .getGlobal name => Answer.ofObject (← c.getGlobal I name)
  | .getAttr target name => Answer.ofObject (← Context.getAttr I (← object target) name)
  | .setAttr target name value => do
    let target ← object target
    return .ofBool (← Context.setAttr I target name (← object value))
  | .strOf target => return textOrNull (← Context.strOf I (← object target))
  | .reprOf target => return textOrNull (← Context.reprOf I (← object target))
  | .discard target =>
    Context.discard I (← object target)
    return .done
  | .capture => return .ofBool (← Capture.start I c)
  | .isCapturing => return .ofBool (← c.isCapturing)
  | .drain => return .ofText (← Capture.drain I c)
  | .allOutput => return .ofText (← Capture.all I c)

/-- Perform a request to the context with a name. -/
def context (name : String) : ContextRequest → Exec Session Answer
  | .open kind machineName showErrors marker => do
    Answer.ofExcept BindError.report
      (fun c => do
        let c := { c with
          showErrors := showErrors.getD c.showErrors
          marker := marker.getD c.marker }
        keepContext name c
        return .plain (Answer.contextJson c))
      (← openContext r kind machineName)
  | request => do inContext r (← contextNamed name) request

/-- The source that captures output, by a word of its own. -/
def nameSource (source : String) : String :=
  if source == Capture.source then "<SHIM>" else source

/-- Call an object with each of some objects in turn, whatever comes of it. -/
def mapObjects (n : Nat) (f : Option Ref) : List (Option Ref) → Exec Session (List (Option Ref))
  | [] => return []
  | item :: rest => do
    let out ← Script.callObject r.call n f [item]
    return out :: (← mapObjects n f rest)

/-- Perform a request to a scripted interpreter as such. -/
def inspect (name : String) : InspectRequest → Exec Session Answer
  | .object value => do Answer.ofObject (← object value)
  | .same a b => do
    let a ← object a
    return .ofBool (a == (← object b))
  | .pending => do
    let n ← scriptedNamed name
    return .plain (Answer.faultJson (← (Script.Store.machine n).run).pending)
  | .takeError => do
    let n ← scriptedNamed name
    return .plain (Answer.faultJson (← (Script.Store.takeFault n).run))
  | .console => do
    let n ← scriptedNamed name
    return .ofText (← (Script.Store.machine n).run).console
  | .executed => do
    let n ← scriptedNamed name
    let sources := (← (Script.Store.machine n).run).executed.reverse
    return .plain (Json.texts (sources.map nameSource))
  | .call callable args => do
    let n ← scriptedNamed name
    match ← object callable with
    | none => return .ofText "null callable"
    | some f => do
      let args ← objects args
      Answer.ofObject (← Script.callObject r.call n (some f) args)
  | .map callable values => do
    let n ← scriptedNamed name
    let f ← object callable
    let values ← objects values
    return .plain (← Answer.objectsJson (← mapObjects r n f values))

/-- Perform one operation of an interpreter. -/
def interface (name : String) (request : InterfaceRequest) : Exec Session Answer := do
  let I := r.machine (← machineNamed name)
  match request with
  | .parseTuple args format =>
    return .plain (← Answer.unpackedJson (← (I.parseTuple (← object args) format).run))
  | .buildValue value => do
    let v ← built value
    Answer.ofObject (← (I.buildValue v).run)
  | .newText text => do
    Answer.ofExcept BindError.report Answer.ofObject (← (I.newText (crossing text)).run)
  | .textOf target => return textOrNull (← (I.textOf (← object target)).run)
  | .strOf target => return textOrNull (← (I.strOf (← object target)).run)
  | .reprOf target => return textOrNull (← (I.reprOf (← object target)).run)
  | .incref target =>
    (I.incref (← object target)).run
    return .done
  | .decref target =>
    (I.decref (← object target)).run
    return .done
  | .mainDict => Answer.ofObject (← I.mainDict.run)
  | .newDict => Answer.ofObject (← I.newDict.run)
  | .builtins => Answer.ofObject (← I.builtins.run)
  | .dictGet target key => Answer.ofObject (← (I.dictGet (← object target) (crossing key)).run)
  | .dictSet target key value => do
    let target ← object target
    return .ofBool (← (I.dictSet target (crossing key) (← object value)).run)
  | .getAttr target key => Answer.ofObject (← (I.getAttr (← object target) (crossing key)).run)
  | .setAttr target key value => do
    let target ← object target
    return .ofBool (← (I.setAttr target (crossing key) (← object value)).run)
  | .runString source mode scope => do
    let scope ← object scope
    Answer.ofObject (← I.runString (crossing source) mode scope)
  | .compile source name mode =>
    Answer.ofObject (← (I.compile (crossing source) name mode).run)
  | .runSimple source => return .ofBool (← I.runSimple (crossing source))
  | .errorOccurred => return .ofBool (← I.errorOccurred.run)
  | .printError =>
    I.printError.run
    return .done
  | .clearError =>
    I.clearError.run
    return .done
  | .raise message =>
    (I.raiseRuntimeError (crossing message)).run
    return .done
  | .ensureStarted =>
    I.ensureStarted.run
    return .done

/-- Perform a request to carry something across the boundary. -/
def marshal (name : String) (request : MarshalRequest) : Exec Session Answer := do
  let I := r.machine (← machineNamed name)
  match request with
  | .parseIn args kind => do
    let args ← object args
    Answer.ofExcept ArgumentError.report
      (fun args => do return .plain (← Answer.argumentsJson args))
      (← (Marshal.parseIn I args kind).run)
  | .buildOut v target => do
    let v ← value v
    Answer.ofObject (← (Marshal.buildOut I v target).run)
  | .none => Answer.ofObject (← (Marshal.buildNone I).run)
  | .handle target => Answer.ofObject (← object target)

/-- The answer where no lambda is held under a name. -/
def gone : Answer :=
  .ofText "gone"

/-- Perform a request about lambdas kept under names. -/
def handle : HandleRequest → Exec Session Answer
  | .info name => do
    match (← getDesk).lambdas.get? name with
    | none => return gone
    | some n => return .plain (← Answer.lambdaJson n)
  | .release name => do
    match (← getDesk).lambdas.get? name with
    | none => return gone
    | some n => return .ofBool (← Lambda.release r.machine n)
  | .drop name => do
    let held := (← getDesk).lambdas.contains name
    dropLambda name
    return .ofBool held
  | .source name text =>
    match SourceLambda.check text with
    | .error e => return .ofReport e.report
    | .ok l => do
      keepSource name (← SourceLambda.keep l)
      return .done
  | .resolve name contextName => do
    let n ← named (← getDesk).sources name
    let c ← contextNamed contextName
    let result ← SourceLambda.resolve (r.machine c.machine) c n
    let answer ← Answer.ofExcept LambdaError.report (fun o => Answer.ofObject (some o)) result
    let l := (← get).sources[n]?
    let global := (l.bind SourceLambda.global).map Ident.text
    return ⟨.record [("result", answer.json), ("global", Json.optional Json.text global),
      ("source", Json.optional (fun l => .text l.source) l)], answer.object⟩

/-- Take a descriptor for each identifier, in order. -/
def acquireAll : List String → Exec Session (List Nat)
  | [] => return []
  | id :: rest => do
    let n ← World.acquireDescriptor ⟨id⟩
    return n :: (← acquireAll rest)

/-- Give descriptors back, in order. -/
def releaseAll : List Nat → Exec Session Unit
  | [] => return ()
  | n :: rest => do
    World.releaseDescriptor n
    releaseAll rest

/-- Perform a request to the registry, the descriptor pool or the router. -/
def registry : RegistryRequest → Exec Session Answer
  | .unregister id => do return .ofBool (← World.unregister ⟨id⟩)
  | .contains id => do return .ofBool ((← get).registry.contains ⟨id⟩)
  | .size => do return .ofNat (← get).registry.size
  | .idsFor shape => do
    return .plain (Json.texts (((← get).registry.idsFor shape).map Ident.text))
  | .call id args => do
    let args ← arguments args
    match (← get).call? id with
    | none => return .plain .null
    | some (shape, call) =>
      let v ← r.host (call args)
      return .plain (.list [.text shape.display, ← Answer.valueJson v])
  | .stats => do return .plain (Answer.statsJson (← get))
  | .pooled => do return .ofNat (← get).descriptors.pooled
  | .dispatch self args => do
    let self ← object self
    let args ← object args
    Answer.ofObject (← r.enter self args)
  | .descriptors ids positions => do
    let numbers ← acquireAll ids
    let pool := (← get).descriptors
    releaseAll (positions.eraseDups.filterMap fun p => numbers[p]?)
    return .plain (.record [("names", Json.texts (numbers.map pool.name)),
      ("before", .count pool.pooled), ("after", .count (← get).descriptors.pooled)])

/-- Expose a closure. -/
def expose (how : Exposure) (shape : Shape) (call : Closure) :
    Exec Session (Except LambdaError Nat) := do
  match how with
  | .fresh => Lambda.expose r.machine shape call
  | .withId id => Lambda.exposeAs r.machine id shape call
  | .untyped => Lambda.exposeUntyped r.machine shape call
  | .inMachine name =>
    let m ← machineNamed name
    Lambda.create r.machine m (← World.drawLambdaId) shape call

/-- Register a closure directly. -/
def register (id : String) (shape : Shape) (call : Closure) : Exec Session Answer :=
  match Ident.ofText? id with
  | none => return .ofReport ⟨"InvalidIdentifier", id⟩
  | some id => do
    Answer.ofExcept RegistryError.report (fun () => return .done)
      (← World.register id shape call)

/-- Run a computation with a lambda whose callable, if it has one left, is kept as `scoped`, and
release the lambda afterwards. -/
def withLambda (n : Nat) (body : Exec Session Answer) : Exec Session Answer := do
  keepObject "scoped" ((← get).callable? n)
  Lambda.withRelease r.machine n body

/-- Run a cell. Without a handler, magic lines are answered as unknown, and the output is the
answer. -/
def cell (c : Context) (source : String) (marker : Option Char)
    (handler : Option (String → String → Exec Session Directive)) : Exec Session Answer := do
  let I := r.machine c.machine
  let marker := marker.getD c.marker
  match handler with
  | none =>
    let (out, _) ← Cell.run I c source marker fun directive _ => return Handler.unknown directive
    return .ofText out
  | some handler =>
    let (out, handled) ← Cell.run I c source marker handler
    let seen := handled.flatMap fun h =>
      .list [.text h.directive, .text h.argument] :: h.outcome.notes
    return .plain (.record [("out", .text out), ("seen", .list seen)])

end Perform

end ClosureBridge
