import ClosureBridge.Context

/-!
# Binding an interpreter

At most one interpreter is bound, and the first one stays. An interpreter comes from an image; the
configuration, the environment and then the usual names tell which.

## Main definitions

* `Binding.install`: bind an interpreter that is there.
* `Binding.ofImage`: bind the interpreter of an image.
* `Binding.locate`: open the image that a configuration tells.
* `Binding.load`: locate, bind and start an interpreter.
-/

namespace ClosureBridge.Binding

/-- The usual names of an image, in the order in which they are tried. -/
def usualNames : List String := [
  "libpython3.so", "libpython3.13.so.1.0", "libpython3.12.so.1.0", "libpython3.11.so.1.0",
  "libpython3.10.so.1.0"]

/-- Open the first image by its name that can be opened. -/
def openFirst (shelf : Shelf) (names : List String) : Except BindError Image :=
  match names.findSome? fun name => (Image.openName shelf name).toOption with
  | some image => .ok image
  | none => .error (.noLibrary names)

/-- Open the image at a path. -/
def openAt (shelf : Shelf) (path : String) : Except BindError Image :=
  (Image.openPath shelf path).mapError .load

/-- Open the image that a configuration tells, or else the environment (by `PYLAMBDA_LIBRARY`), or
else the usual names. -/
def locate (config : RuntimeConfig) (environment : Option String) (shelf : Shelf) :
    Except BindError Image :=
  match config.library <|> environment with
  | some path => openAt shelf path
  | none => openFirst shelf usualNames

variable {ι : Type}

/-- Whether an interpreter is bound. -/
def isBound : Exec (World ι) Bool := do
  return (← get).bound.isSome

/-- Bind an interpreter, unless one is bound; tells whether it was. -/
def install (m : MachineId) : Exec (World ι) Bool :=
  modifyGet fun w =>
    match w.bound with
    | some _ => (false, w)
    | none => (true, { w with bound := some m })

/-- Bind the interpreter of an image, unless one is bound. -/
def ofImage (resolve : Image → Exec (World ι) (Except BindError MachineId)) (image : Image) :
    Exec (World ι) (Except BindError Unit) := do
  if ← isBound then return .ok ()
  else
    match ← resolve image with
    | .error e => return .error e
    | .ok m =>
      let _ ← install m
      return .ok ()

/-- The interpreter that is bound, or else that of a configuration, bound and started. One that is
bound already is not started. -/
def load (machine : MachineId → Interpreter ι)
    (resolve : Image → Exec (World ι) (Except BindError MachineId)) (config : RuntimeConfig)
    (environment : Option String) (shelf : Shelf) :
    Exec (World ι) (Except BindError MachineId) := do
  match (← get).bound with
  | some m => return .ok m
  | none =>
    match locate config environment shelf with
    | .error e => return .error e
    | .ok image =>
      match ← ofImage resolve image with
      | .error e => return .error e
      | .ok () =>
        match ← Dispatch.current with
        | .error e => return .error e
        | .ok m =>
          if config.autoStart then (machine m).ensureStarted.run
          return .ok m

end ClosureBridge.Binding
