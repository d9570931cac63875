import ClosureBridge.Bindings
import ClosureBridge.Config.Basic
import ClosureBridge.Error
import ClosureBridge.Path

/-!
# Logging

## Main definitions

* `Level`, `LogFormat`, `LogOutput`, `LogConfig`: what is logged, how and where.
* `Level.ofText?`, `LogFormat.ofText?`: their readers.
* `LogOutput.file`: the output for a path.
* `LogConfig.ofEnvironment`: the defaults, overridden by environment variables.
* `LogConfig.ofSection`: the logging section of a configuration.
-/

namespace ClosureBridge

/-- How grave an event is. -/
inductive Level where
  | error
  | warn
  | info
  | debug
  | trace
  deriving DecidableEq, Repr

/-- A text with its ASCII letters in lower case. -/
def asciiLower (text : String) : String :=
  String.ofList (text.toList.map Char.toLower)

namespace Level

/-- The levels, the gravest first. -/
def all : List Level :=
  [error, warn, info, debug, trace]

/-- The name of a level. -/
def name : Level → String
  | error => "ERROR"
  | warn => "WARN"
  | info => "INFO"
  | debug => "DEBUG"
  | trace => "TRACE"

/-- The number that digits denote, after an optional plus sign. -/
def number? (text : List Char) : Option Nat :=
  let digits := match text with
    | '+' :: rest => rest
    | text => text
  if digits.isEmpty || !digits.all Char.isDigit then none
  else some (digits.foldl (fun n c => n * 10 + (c.toNat - '0'.toNat)) 0)

/-- The level with a number, one being the gravest. -/
def ofNumber? (n : Nat) : Option Level :=
  if n = 0 then none else all[n - 1]?

/-- The level that a text denotes, by its number or by its name in any case. -/
def ofText? (text : String) : Option Level :=
  ((number? text.toList).bind ofNumber?) <|>
    all.find? fun l => asciiLower l.name == asciiLower text

end Level

/-- How an event is written. -/
inductive LogFormat where
  | pretty
  | compact
  | json
  deriving DecidableEq, Repr

namespace LogFormat

/-- The formats. -/
def all : List LogFormat :=
  [pretty, compact, json]

/-- The name of a format. -/
def name : LogFormat → String
  | pretty => "Pretty"
  | compact => "Compact"
  | json => "Json"

/-- The format with a name, in any case. -/
def ofText? (text : String) : Option LogFormat :=
  all.find? fun f => asciiLower f.name == asciiLower text

/-- What is said about a text that names no format. -/
def unknown (text : String) : String :=
  "Unknown log format: " ++ asciiLower text

end LogFormat

/-- Where events are written. -/
inductive LogOutput where
  | stdout
  | stderr
  /-- A new file every day, with the date after its name. -/
  | file (directory stem : String)
  deriving DecidableEq, Repr

namespace LogOutput

/-- The name of a file when the path has none. -/
def defaultStem : String := "pylambda.log"

/-- The output for a path: its last piece in its parent, or in the current directory. -/
def ofPath (text : String) : LogOutput :=
  let path := Path.ofChars text.toList
  let parent := ((path.parent?.map Path.chars).filter (!·.isEmpty)).getD ['.']
  file (String.ofList parent) ((path.fileName?.map String.ofList).getD defaultStem)

end LogOutput

/-- What is logged, how and where. -/
structure LogConfig where
  level : Level := .info
  format : LogFormat := .compact
  output : LogOutput := .stderr
  /-- Whether the start and the end of a span are events. -/
  spanEvents : Bool := false
  /-- Further directives for what is logged. -/
  filter : Option String := none
  deriving DecidableEq, Repr

namespace LogConfig

/-- The environment variable for the level. -/
def levelVariable : String := "PYLAMBDA_LOG_LEVEL"

/-- The environment variable for the file. -/
def fileVariable : String := "PYLAMBDA_LOG_FILE"

/-- The environment variable for the machine-readable format. -/
def jsonVariable : String := "PYLAMBDA_LOG_JSON"

/-- The words that switch a variable on. -/
def switchWords : List String :=
  ["1", "true", "yes"]

/-- The defaults, overridden by environment variables; what cannot be read overrides nothing. -/
def ofEnvironment (environment : Bindings String) : LogConfig :=
  let get (name : String) : Option String := (environment.get? name).map Margin.trimString
  { level := ((get levelVariable).bind Level.ofText?).getD .info
    output := (((get fileVariable).filter (· != "")).map LogOutput.ofPath).getD .stderr
    format := if (get jsonVariable).any switchWords.contains then .json else .compact }

/-- The format of a logging section. -/
def formatOf (logging : LoggingConfig) : Except ConfigError LogFormat :=
  if logging.json then .ok .json
  else match LogFormat.ofText? logging.format with
    | some f => .ok f
    | none => .error (.invalid (LogFormat.unknown logging.format))

/-- The logging section of a configuration. -/
def ofSection (logging : LoggingConfig) : Except ConfigError LogConfig := do
  match Level.ofText? logging.level with
  | none => .error (.invalid ("unknown log level '" ++ logging.level ++ "'"))
  | some level =>
    let format ← formatOf logging
    return { level, format, output := (logging.file.map LogOutput.ofPath).getD .stderr }

end LogConfig

end ClosureBridge
