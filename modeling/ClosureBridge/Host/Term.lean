import ClosureBridge.Value

/-!
# Objects and values as host code writes them

Host code names objects of the interpreter by terms: a literal stands for a new object each time,
and a name for something made earlier.

## Main definitions

* `Term`: an object.
* `ValueTerm`, `ArgumentsTerm`: a value or arguments whose objects are terms.
-/

namespace ClosureBridge

/-- An object as host code writes it. -/
inductive Term where
  | null
  | boolean (b : Bool)
  | integer (n : Int64)
  | float (v : Float)
  | text (s : String)
  | list (items : List Term)
  | tuple (items : List Term)
  /-- A new object that takes attributes. -/
  | record
  /-- A new empty dictionary. -/
  | dict
  /-- An object kept under a name. -/
  | saved (name : String)
  /-- The callable of a lambda that is held under a name and not released. -/
  | lambda (name : String)
  /-- The namespace of a context. -/
  | globals (context : String)
  /-- A reference, or none. -/
  | raw (r : Option Ref)

/-- A value as host code writes it. -/
inductive ValueTerm where
  | integer (n : Int64)
  | float (v : Float)
  | text (s : String)
  | boolean (b : Bool)
  | object (t : Term)

/-- Arguments as host code writes them. -/
inductive ArgumentsTerm where
  | integer (n : Int64)
  | boolean (b : Bool)
  | float (v : Float)
  | text (s : String)
  | object (a : Term)
  | pair (a b : Term)
  | triple (a b c : Term)

end ClosureBridge
