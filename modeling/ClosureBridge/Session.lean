import ClosureBridge.Binding
import ClosureBridge.LogFile

/-!
# Sessions

## Main definitions

* `Session.openLog`, `Session.begin`: set up what a configuration describes.
* `Session.describe`: a session in diagnostics.
-/

namespace ClosureBridge.Session

variable {ι : Type}

/-- Open the log output in an empty current directory; a file that cannot be opened is a panic. -/
def openLog (date : String) (output : LogOutput) : Exec (World ι) Unit :=
  match output.openFile {} [] date with
  | .ok _ => return ()
  | .error e => Exec.panic (.text e.message)

/-- Check the logging section and open the log output, bind the interpreter and open its main
namespace. -/
def begin (machine : MachineId → Interpreter ι)
    (resolve : Image → Exec (World ι) (Except BindError MachineId)) (config : Config)
    (date : String) (environment : Option String) (shelf : Shelf) :
    Exec (World ι) (Except Error Context) := do
  match LogConfig.ofSection config.logging with
  | .error e => return .error (.config e)
  | .ok log =>
    openLog date log.output
    match ← Binding.load machine resolve config.runtime environment shelf with
    | .error e => return .error (.bind e)
    | .ok _ =>
      match ← Context.main machine with
      | .error e => return .error (.bind e)
      | .ok c =>
        return .ok { c with
          showErrors := config.runtime.showErrors
          marker := config.interactive.magicMarker }

/-- A session in diagnostics. The host has a logger of its own, so the session never owns one. -/
def describe (c : Context) (capturing : Bool) : String :=
  "Session \x7b context: " ++ c.describe capturing ++ ", owns_logging: false \x7d"

end ClosureBridge.Session
