import ClosureBridge.Descriptor
import ClosureBridge.Host.Program
import ClosureBridge.Registry

/-!
# The state of the library

Everything the library keeps for the whole process, and, opaquely, what the interpreters keep.

## Main definitions

* `Stats`: the counters of the router.
* `Lambda`, `SourceLambda`: exposed closures, and lambdas written as source text.
* `World`: the state. Its parameter is the type of what the interpreters keep.
* `World.call?`, `World.callable?`: views of the state.
-/

namespace ClosureBridge

/-- An interpreter. -/
inductive MachineId where
  /-- One that runs scripts itself. -/
  | scripted (n : Nat)
  /-- One that is bound from an image, which can build text objects or not. -/
  | native (n : Nat) (textConstructor : Bool)
  deriving DecidableEq, Repr

/-- The counters of the router. -/
structure Stats where
  /-- Calls that arrived. -/
  calls : UInt64 := 0
  /-- Calls of an identifier that is not registered. -/
  misses : UInt64 := 0
  /-- Arguments or results that could not cross the boundary. -/
  argumentErrors : UInt64 := 0
  /-- Closures that panicked. -/
  panics : UInt64 := 0
  deriving DecidableEq, Repr

/-- A closure exposed to an interpreter. -/
structure Lambda where
  id : Ident
  shape : Shape
  call : Closure
  /-- The interpreter in which the callable lives. -/
  machine : MachineId
  callable : Ref
  /-- The descriptor, until the lambda is released. -/
  descriptor : Option Nat

/-- A lambda written as source text. -/
structure SourceLambda where
  source : String
  /-- The global that holds the function, once it has been defined. -/
  global : Option Ident := none
  /-- The name under which it is being defined, while it is. -/
  pending : Option Ident := none

/-- The state of the library over interpreters that keep an `ι`. -/
structure World (ι : Type) where
  registry : Registry Closure := {}
  descriptors : DescriptorPool := {}
  lambdaIds : IdentSource := ⟨Ident.lambdaStem, 0⟩
  sourceIds : IdentSource := ⟨Ident.sourceStem, 0⟩
  stats : Stats := {}
  /-- The interpreter that is bound. -/
  bound : Option MachineId := none
  /-- The lambdas exposed so far, released ones included. -/
  lambdas : Array Lambda := #[]
  /-- The lambdas written as source text so far. -/
  sources : Array SourceLambda := #[]
  /-- For each context opened so far, whether it captures output. -/
  capturing : Array Bool := #[]
  /-- What the interpreters keep. -/
  outside : ι

namespace World

variable {ι : Type}

/-- The shape and the closure registered under an identifier. -/
def call? (w : World ι) (id : String) : Option (Shape × Closure) :=
  w.registry.get? ⟨id⟩

/-- The reference to the callable of a lambda that is not released. -/
def callable? (w : World ι) (n : Nat) : Option Ref :=
  (w.lambdas[n]?).bind fun l => l.descriptor.map fun _ => l.callable

/-- Change the counters. -/
def count (f : Stats → Stats) : Exec (World ι) Unit :=
  modify fun w => { w with stats := f w.stats }

/-- Draw an identifier for an exposed closure. -/
def drawLambdaId : Exec (World ι) Ident :=
  modifyGet fun w =>
    let (id, lambdaIds) := w.lambdaIds.next
    (id, { w with lambdaIds })

/-- Draw an identifier for a lambda written as source text. -/
def drawSourceId : Exec (World ι) Ident :=
  modifyGet fun w =>
    let (id, sourceIds) := w.sourceIds.next
    (id, { w with sourceIds })

/-- Register a closure. -/
def register (id : Ident) (shape : Shape) (call : Closure) :
    Exec (World ι) (Except RegistryError Unit) :=
  modifyGet fun w =>
    match w.registry.insert id shape call with
    | .ok registry => (.ok (), { w with registry })
    | .error e => (.error e, w)

/-- Take an identifier out of the registry; tells whether it was there. -/
def unregister (id : Ident) : Exec (World ι) Bool :=
  modifyGet fun w =>
    let (shape, registry) := w.registry.remove id
    (shape.isSome, { w with registry })

/-- Take a descriptor for an identifier. -/
def acquireDescriptor (id : Ident) : Exec (World ι) Nat :=
  modifyGet fun w =>
    let (n, descriptors) := w.descriptors.acquire id
    (n, { w with descriptors })

/-- Give a descriptor back. -/
def releaseDescriptor (n : Nat) : Exec (World ι) Unit :=
  modify fun w => { w with descriptors := w.descriptors.release n }

end World

end ClosureBridge
