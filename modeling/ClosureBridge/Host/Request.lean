import ClosureBridge.Config.Basic
import ClosureBridge.Host.Term
import ClosureBridge.Image
import ClosureBridge.Mode

/-!
# What host code can ask for

The requests that carry no code of the host. Things are asked for by the names they are kept
under.

## Main definitions

* `RuntimeRequest`: interpreters, and which of them is bound.
* `ContextRequest`: running source, and reading and writing a namespace.
* `InspectRequest`: the scripted interpreter, looked at from outside.
* `InterfaceRequest`: the operations of an interpreter, one by one.
* `MarshalRequest`: values and objects across the boundary.
* `HandleRequest`: lambdas by name.
* `RegistryRequest`: the registry, the descriptors and the router.
-/

namespace ClosureBridge

/-- A request about interpreters and the binding. -/
inductive RuntimeRequest where
  /-- Make a scripted interpreter, with or without a constructor of text objects. -/
  | make (name : String) (textConstructor : Bool)
  | install (machine : String)
  | isBound
  /-- The names of the interpreter that is bound. -/
  | current
  /-- Locate, bind and start the interpreter of a configuration. -/
  | load (name : String) (library environment : Option String) (autoStart : Bool) (shelf : Shelf)
  /-- Open an image and bind it. -/
  | bind (name path : String) (shelf : Shelf)
  /-- Resolve the entry points of an image and bind nothing. -/
  | resolve (name path : String) (shelf : Shelf)
  /-- Set up a session from a configuration, on the day with a date. -/
  | begin (name : String) (config : Config) (date : String) (environment : Option String)
      (shelf : Shelf)

/-- Which namespace a context opens. -/
inductive ContextKind where
  /-- The main namespace of the bound interpreter. -/
  | main
  /-- The main namespace of a given interpreter. -/
  | ofMachine
  /-- A new namespace of a given interpreter. -/
  | isolated
  deriving DecidableEq, Repr

/-- A request to a context. -/
inductive ContextRequest where
  | open (kind : ContextKind) (machine : String) (showErrors : Option Bool) (marker : Option Char)
  | describe
  | errorOccurred
  | execute (source : String) (mode : Mode) (showErrors : Bool)
  | run (source : String) (mode : Mode)
  | compiles (source : String) (mode : Mode)
  | runSimple (source : String)
  | setGlobal (name : String) (value : Term)
  | getGlobal (name : String)
  | getAttr (object : Term) (name : String)
  | setAttr (object : Term) (name : String) (value : Term)
  | strOf (object : Term)
  | reprOf (object : Term)
  | discard (object : Term)
  | capture
  | isCapturing
  | drain
  | allOutput

/-- A request to a scripted interpreter as such. -/
inductive InspectRequest where
  | object (value : Term)
  | same (a b : Term)
  | pending
  | takeError
  | console
  | executed
  | call (callable : Term) (args : List Term)
  | map (callable : Term) (values : List Term)

/-- A value to build an object from. -/
inductive BuildTerm where
  | none
  | long (n : Int64)
  | double (v : Float)
  | text (s : String)
  | boolean (b : Bool)
  | object (t : Term)

/-- A request for one operation of an interpreter. -/
inductive InterfaceRequest where
  | parseTuple (args : Term) (format : TupleFormat)
  | buildValue (value : BuildTerm)
  | newText (text : String)
  | textOf (object : Term)
  | strOf (object : Term)
  | reprOf (object : Term)
  | incref (object : Term)
  | decref (object : Term)
  | mainDict
  | newDict
  | builtins
  | dictGet (object : Term) (key : String)
  | dictSet (object : Term) (key : String) (value : Term)
  | getAttr (object : Term) (name : String)
  | setAttr (object : Term) (name : String) (value : Term)
  | runString (source : String) (mode : Mode) (scope : Term)
  | compile (source name : String) (mode : Mode)
  | runSimple (source : String)
  | errorOccurred
  | printError
  | clearError
  | raise (message : String)
  | ensureStarted

/-- A request to carry something across the boundary. -/
inductive MarshalRequest where
  | parseIn (args : Term) (kind : InputKind)
  | buildOut (value : ValueTerm) (target : OutputKind)
  | none
  | handle (object : Term)

/-- A request about lambdas kept under names. -/
inductive HandleRequest where
  | info (name : String)
  | release (name : String)
  | drop (name : String)
  /-- Keep a lambda written as source text. -/
  | source (name text : String)
  /-- The function of a lambda written as source text, in a context. -/
  | resolve (name context : String)

/-- A request to the registry, the descriptor pool or the router. -/
inductive RegistryRequest where
  | unregister (id : String)
  | contains (id : String)
  | size
  | idsFor (shape : Shape)
  | call (id : String) (args : ArgumentsTerm)
  | stats
  | pooled
  | dispatch (self args : Term)
  /-- Take a descriptor for each identifier, then give those at some positions back, each once. -/
  | descriptors (ids : List String) (release : List Nat)

end ClosureBridge
