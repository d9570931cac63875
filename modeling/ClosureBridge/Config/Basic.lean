/-!
# Configuration

## Main definitions

* `Config`: the three sections of a configuration file, each with its defaults.

-/

namespace ClosureBridge

/-- What starts a magic line unless the configuration says otherwise. -/
def defaultMarker : Char := '%'

/-- Which interpreter to bind, and how. -/
structure RuntimeConfig where
  /-- The interpreter's image; without one the environment and then the usual names decide. -/
  library : Option String := none
  /-- Whether to start the interpreter when the host has not. -/
  autoStart : Bool := true
  /-- Whether tracebacks are printed or dropped. -/
  showErrors : Bool := true
  deriving DecidableEq, Repr

/-- How cells are read. -/
structure InteractiveConfig where
  magicMarker : Char := defaultMarker
  deriving DecidableEq, Repr

/-- What is logged, and where. -/
structure LoggingConfig where
  level : String := "info"
  format : String := "compact"
  /-- Whether the format is the machine-readable one, whatever `format` says. -/
  json : Bool := false
  file : Option String := none
  deriving DecidableEq, Repr

/-- A configuration. -/
structure Config where
  runtime : RuntimeConfig := {}
  interactive : InteractiveConfig := {}
  logging : LoggingConfig := {}
  deriving DecidableEq, Repr

end ClosureBridge
