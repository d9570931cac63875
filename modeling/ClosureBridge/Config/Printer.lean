import ClosureBridge.Config.Basic
import ClosureBridge.Toml.Section

/-!
# Writing a configuration

## Main definitions

* `Config.sections`: the sections of a configuration.
* `Config.text`: the text of a configuration.
* `Config.isCountable`: whether it can be written.
* `Config.starter`: the text of a new configuration file.
-/

namespace ClosureBridge.Config

open Toml (Section Setting)

/-- A setting that may be absent, and then is left out. -/
def optionalText (name : String) (s : Option String) : List (String × Setting) :=
  (s.map fun s => (name, Setting.text s)).toList

/-- The sections of a configuration. -/
def sections (c : Config) : List Section := [
  { name := "runtime"
    settings := optionalText "library" c.runtime.library ++
      [("initialize", .boolean c.runtime.autoStart),
        ("show_errors", .boolean c.runtime.showErrors)] },
  { name := "interactive"
    settings := [("magic_marker", .text c.interactive.magicMarker.toString)] },
  { name := "logging"
    settings := [("level", .text c.logging.level), ("format", .text c.logging.format),
      ("json", .boolean c.logging.json)] ++ optionalText "file" c.logging.file }]

/-- The text of a configuration. -/
def text (c : Config) : String :=
  String.ofList (Section.writeAll c.sections)

/-- Whether the runs of quotes in all texts of a configuration can be counted. -/
def isCountable (c : Config) : Bool :=
  c.sections.all Section.isCountable

/-- The text of a new configuration file: the defaults, and what else can be set. -/
def starter : String :=
  String.intercalate "\n" [
    "# pylambda configuration",
    "",
    "[runtime]",
    "# Interpreter shared library (default: $PYLAMBDA_LIBRARY, then libpython3.so et al.)",
    "# library = \"/usr/lib/x86_64-linux-gnu/libpython3.12.so.1.0\"",
    "initialize = true",
    "show_errors = true",
    "",
    "[interactive]",
    "magic_marker = \"" ++ defaultMarker.toString ++ "\"",
    "",
    "[logging]",
    "level = \"info\"",
    "format = \"compact\"   # pretty | compact | json",
    "json = false",
    "# file = \"logs/pylambda.log\"",
    ""]

end ClosureBridge.Config
