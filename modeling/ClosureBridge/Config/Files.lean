import ClosureBridge.Config.Printer
import ClosureBridge.Config.Reader
import ClosureBridge.FileTree

/-!
# Configuration files

## Main definitions

* `Config.load`, `Config.save`: between a configuration and its file.
* `Config.discoverFrom?`: the configuration for a directory, from the nearest file at or above it.
* `Config.discover`: the configuration for the current directory.
-/

namespace ClosureBridge.Config

/-- The names of configuration files, the preferred one first. -/
def fileNames : List String :=
  ["pylambda.toml", ".pylambda.toml"]

/-- Why a configuration was not saved. -/
inductive SaveError where
  | config (e : ConfigError)
  /-- The number of quotes in a row is out of range. -/
  | overflow (e : Overflow)
  deriving DecidableEq, Repr

/-- The error about a file. -/
def fileError (path : String) (e : FileError) : ConfigError :=
  .io (path ++ ": " ++ e.message)

/-- The configuration in a file. -/
def load (tree : FileTree) (path : String) : Except ConfigError Config := do
  parse (← (tree.read [] path).mapError (fileError path))

/-- The tree after a configuration was written to a file. Nothing is written when quotes cannot be
counted. -/
def save (c : Config) (tree : FileTree) (path : String) : Except SaveError FileTree :=
  if c.isCountable then (tree.write [] path c.text).mapError fun e => .config (fileError path e)
  else .error (.overflow .add)

/-- The configuration of the first of the files at some paths that can be loaded. -/
def firstOf? (tree : FileTree) (paths : List String) : Option Config :=
  paths.findSome? fun path => (load tree path).toOption

/-- Where the configuration for a directory may be, the nearest path first. -/
def candidates (directory : String) : List String :=
  (Path.ofChars directory.toList).ancestors.flatMap fun p =>
    fileNames.map fun name => String.ofList (p.join name.toList)

/-- The configuration for a directory: the nearest one at or above it that can be loaded. -/
def discoverFrom? (tree : FileTree) (directory : String) : Option Config :=
  firstOf? tree (candidates directory)

/-- The configuration for the current directory, or the defaults. -/
def discover (tree : FileTree) (current : Place) : Config :=
  (discoverFrom? tree (FileTree.pathOf current)).getD {}

end ClosureBridge.Config
