import ClosureBridge.FileTree
import ClosureBridge.Log

/-!
# Log files

The file of a day bears the date after its name. Its directory is made when the file cannot be
opened at once.

## Main definitions

* `LogFault`: why no log file could be opened, and its wording.
* `LogOutput.path?`: the path of the file of a day.
* `LogOutput.openFile`: open an output.
-/

namespace ClosureBridge

/-- Why no log file could be opened. -/
inductive LogFault where
  | directory (e : FileError)
  | file (e : FileError)
  deriving DecidableEq, Repr

namespace LogFault

/-- What was being done. -/
def context : LogFault → String
  | directory _ => "failed to create log directory"
  | file _ => "failed to create log file"

/-- What stood against it. -/
def cause : LogFault → FileError
  | directory e => e
  | file e => e

/-- The wording. -/
def message (e : LogFault) : String :=
  "initializing rolling file appender failed: InitError \x7b context: \"" ++ e.context ++
    "\", source: " ++ e.cause.describe ++ " \x7d"

end LogFault

namespace LogOutput

/-- The path of the file of a day. -/
def path? (date : String) : LogOutput → Option String
  | file directory stem =>
    let name := stem ++ "." ++ date
    some (String.ofList ((Path.ofChars directory.toList).join name.toList))
  | _ => none

/-- The directory of the file at a path. -/
def directoryOf (path : String) : String :=
  String.ofList (((Path.ofChars path.toList).parent?.map Path.chars).getD [])

/-- The tree after an output was opened in a current directory. -/
def openFile (tree : FileTree) (current : Place) (date : String) (output : LogOutput) :
    Except LogFault FileTree :=
  match output.path? date with
  | none => .ok tree
  | some path =>
    match tree.touch current path with
    | .ok tree => .ok tree
    | .error _ => do
      let tree ← (tree.makeDirectories current (directoryOf path)).mapError .directory
      (tree.touch current path).mapError .file

end LogOutput

end ClosureBridge
