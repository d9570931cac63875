import ClosureBridge.Config.Basic
import ClosureBridge.Error
import ClosureBridge.Toml.Document

/-!
# Reading a configuration

A section is a table of its settings, or a list of them in their order. A setting that is missing
has its default, and what has no meaning is passed over.

## Main definitions

* `Fields`: the settings of a section, by name or in order.
* `Config.ofDocument?`: the configuration that a document holds.
* `Config.accepts`: whether a character may start magic lines.
* `Config.parse`: the configuration that a text denotes.

## Main statements

* `Config.validate_eq_ok_iff`: validation changes nothing.
-/

namespace ClosureBridge

open Toml (Value)

/-- The settings of a section. -/
inductive Fields where
  | named (entries : Bindings Value)
  | ordered (items : List Value)

namespace Fields

/-- The settings that a value holds. A moment is a table of nothing that any section knows. -/
def ofValue? : Value → Option Fields
  | .closed entries => some (named entries)
  | .table t => some (named t.entries)
  | .moment _ => some (named ∅)
  | .list items => some (ordered items)
  | .tables newest older => some (ordered ((newest :: older).reverse.map Value.table))
  | _ => none

/-- The setting with a name and a place in the order. -/
def get? (fields : Fields) (place : Nat) (name : String) : Option Value :=
  match fields with
  | named entries => entries.get? name
  | ordered items => items[place]?

/-- A setting that is read in a given way, or its default. -/
def read? {α : Type} (fields : Fields) (place : Nat) (name : String) (read : Value → Option α)
    (default : α) : Option α :=
  match fields.get? place name with
  | some v => read v
  | none => some default

end Fields

/-- A text. -/
def textSetting? : Value → Option String
  | .text s => some s
  | _ => none

/-- A truth value. -/
def booleanSetting? : Value → Option Bool
  | .boolean b => some b
  | _ => none

/-- A text of one character. -/
def characterSetting? (v : Value) : Option Char :=
  match (textSetting? v).map String.toList with
  | some [c] => some c
  | _ => none

/-- The section that a value holds. -/
def RuntimeConfig.ofValue? (v : Value) : Option RuntimeConfig := do
  let fields ← Fields.ofValue? v
  let base : RuntimeConfig := {}
  return {
    library := ← fields.read? 0 "library" (fun v => (textSetting? v).map some) base.library
    autoStart := ← fields.read? 1 "initialize" booleanSetting? base.autoStart
    showErrors := ← fields.read? 2 "show_errors" booleanSetting? base.showErrors }

/-- The section that a value holds. -/
def InteractiveConfig.ofValue? (v : Value) : Option InteractiveConfig := do
  let fields ← Fields.ofValue? v
  let base : InteractiveConfig := {}
  return { magicMarker := ← fields.read? 0 "magic_marker" characterSetting? base.magicMarker }

/-- The section that a value holds. -/
def LoggingConfig.ofValue? (v : Value) : Option LoggingConfig := do
  let fields ← Fields.ofValue? v
  let base : LoggingConfig := {}
  return {
    level := ← fields.read? 0 "level" textSetting? base.level
    format := ← fields.read? 1 "format" textSetting? base.format
    json := ← fields.read? 2 "json" booleanSetting? base.json
    file := ← fields.read? 3 "file" (fun v => (textSetting? v).map some) base.file }

namespace Config

/-- The configuration that the entries of a document hold. -/
def ofDocument? (entries : Bindings Value) : Option Config := do
  let fields := Fields.named entries
  return {
    runtime := ← fields.read? 0 "runtime" RuntimeConfig.ofValue? {}
    interactive := ← fields.read? 1 "interactive" InteractiveConfig.ofValue? {}
    logging := ← fields.read? 2 "logging" LoggingConfig.ofValue? {} }

/-- Whether a character may start magic lines: no letter, number, blank or underscore. -/
def accepts (marker : Char) : Bool :=
  !Category.isAlphanumeric marker && !Category.isBlank marker && marker != '_'

/-- What is said about a marker that is not accepted. -/
def collision (marker : Char) : String :=
  "magic_marker '" ++ marker.toString ++ "' would collide with ordinary source lines"

/-- A configuration whose marker is accepted. -/
def validate (c : Config) : Except ConfigError Config :=
  if accepts c.interactive.magicMarker then .ok c
  else .error (.invalid (collision c.interactive.magicMarker))

theorem validate_eq_ok_iff {c d : Config} :
    c.validate = .ok d ↔ d = c ∧ accepts c.interactive.magicMarker = true := by
  unfold validate
  split
  · rename_i h
    rw [Except.ok.injEq]
    exact ⟨fun hd => ⟨hd.symm, h⟩, fun hd => hd.1.symm⟩
  · rename_i h
    constructor
    · intro hd
      cases hd
    · intro hd
      exact absurd hd.2 h

/-- The configuration that a text denotes. -/
def parse (text : String) : Except ConfigError Config :=
  match Toml.Document.read? text with
  | none => .error (.parse "the text is no document")
  | some entries =>
    match ofDocument? entries with
    | none => .error (.parse "a setting has a value of another type")
    | some c => c.validate

end Config

end ClosureBridge
