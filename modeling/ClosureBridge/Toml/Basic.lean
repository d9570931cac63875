import ClosureBridge.Bindings

/-!
# Values of a document

A document is a table of values. While it is read, later lines may still put more into some of its
tables, so a table also tells how it came to be.

## Main definitions

* `Origin`: how a table came to be.
* `Table`: a table.
* `Value`: a value.
-/

namespace ClosureBridge.Toml

/-- How a table came to be. -/
inductive Origin where
  /-- It was begun by a header, or written in braces, or is the document. -/
  | header
  /-- It lies on the way to the table of a header. -/
  | implied
  /-- It lies on the way to the value of a dotted key. -/
  | dotted
  deriving DecidableEq, Repr

/-- A table. -/
structure Table (α : Type) where
  origin : Origin := .header
  entries : Bindings α := ∅

/-- A value. -/
inductive Value where
  | text (s : String)
  | integer (n : Int64)
  | float (v : Float)
  | boolean (b : Bool)
  /-- A date, a time of day or both, as written. -/
  | moment (written : String)
  | list (items : List Value)
  /-- A table in braces, to which nothing can be added. -/
  | closed (entries : Bindings Value)
  | table (t : Table Value)
  /-- The tables that headers with one name have begun; only the newest still grows. -/
  | tables (newest : Table Value) (older : List (Table Value))

end ClosureBridge.Toml
