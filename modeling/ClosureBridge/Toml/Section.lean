import ClosureBridge.Toml.Quote

/-!
# Writing documents

A document that is written has named sections of settings.

## Main definitions

* `Setting`, `Section`: what is written.
* `Section.write`: the text of a section.
* `Section.writeAll`: the text of a document.
-/

namespace ClosureBridge.Toml

/-- The value of a setting. -/
inductive Setting where
  | text (s : String)
  | boolean (b : Bool)
  deriving DecidableEq, Repr

namespace Setting

/-- The text of a value. -/
def write : Setting → List Char
  | text s => (Quote.ofText s.toList).write s.toList
  | boolean true => ['t', 'r', 'u', 'e']
  | boolean false => ['f', 'a', 'l', 's', 'e']

/-- Whether the runs of quotes in a value can be counted. -/
def isCountable : Setting → Bool
  | text s => Quote.isCountable s.toList
  | boolean _ => true

end Setting

/-- A table with its header. The names in it are written without quotes, so they consist of
letters, digits, dashes and underscores. -/
structure Section where
  name : String
  settings : List (String × Setting)
  deriving DecidableEq, Repr

namespace Section

/-- The line of a setting. -/
def line (name : String) (value : Setting) : List Char :=
  name.toList ++ ' ' :: '=' :: ' ' :: value.write ++ ['\n']

/-- The text of a section. -/
def write (s : Section) : List Char :=
  '[' :: s.name.toList ++ ']' :: '\n' :: s.settings.flatMap fun (name, v) => line name v

/-- The text of a document, an empty line between two sections. -/
def writeAll : List Section → List Char
  | [] => []
  | [s] => s.write
  | s :: more => s.write ++ '\n' :: writeAll more

/-- Whether the runs of quotes in all values of a section can be counted. -/
def isCountable (s : Section) : Bool :=
  s.settings.all fun e => e.2.isCountable

end Section

end ClosureBridge.Toml
