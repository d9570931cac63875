/-!
# Shapes

A closure is exposed under a shape: what it receives and what it gives back. Only the shapes of
the catalog may be exposed.

## Main definitions

* `InputKind`, `OutputKind`, `Shape`.
* `TupleFormat`: how the argument tuple of an input kind is unpacked.
* `Shape.catalog`, `Shape.isSupported`.
-/

namespace ClosureBridge

/-- How an argument tuple is unpacked. -/
inductive TupleFormat where
  | long
  | double
  | text
  | object
  | objectPair
  | objectTriple
  deriving DecidableEq, Repr

namespace TupleFormat

/-- The code of the format: one letter for each argument. -/
def code : TupleFormat → String
  | long => "l"
  | double => "d"
  | text => "s"
  | object => "O"
  | objectPair => "OO"
  | objectTriple => "OOO"

/-- The number of arguments. -/
def arity : TupleFormat → Nat
  | objectPair => 2
  | objectTriple => 3
  | _ => 1

/-- The formats. -/
def all : List TupleFormat :=
  [long, double, text, object, objectPair, objectTriple]

/-- The format with a code. -/
def ofCode? (code : String) : Option TupleFormat :=
  all.find? fun f => f.code = code

theorem arity_pos (f : TupleFormat) : 0 < f.arity := by
  cases f <;> decide

end TupleFormat

/-- What a closure receives. A boolean arrives as an integer, and every integer but zero is
true. -/
inductive InputKind where
  | integer
  | boolean
  | float
  | text
  | object
  | objectPair
  | objectTriple
  deriving DecidableEq, Repr

namespace InputKind

/-- The format that unpacks the argument tuple. -/
def format : InputKind → TupleFormat
  | integer => .long
  | boolean => .long
  | float => .double
  | text => .text
  | object => .object
  | objectPair => .objectPair
  | objectTriple => .objectTriple

/-- The number of arguments. -/
def arity (k : InputKind) : Nat :=
  k.format.arity

/-- The name of the kind in the scripting language. -/
def typeName : InputKind → String
  | integer => "int"
  | boolean => "bool"
  | float => "float"
  | text => "str"
  | object => "object"
  | objectPair => "object, object"
  | objectTriple => "object, object, object"

/-- The name of the kind in diagnostics. -/
def label : InputKind → String
  | integer => "Integer"
  | boolean => "Boolean"
  | float => "Float"
  | text => "Text"
  | object => "Object"
  | objectPair => "ObjectPair"
  | objectTriple => "ObjectTriple"

/-- The kinds. -/
def all : List InputKind :=
  [integer, boolean, float, text, object, objectPair, objectTriple]

/-- The kind with a name in the scripting language. -/
def ofTypeName? (name : String) : Option InputKind :=
  all.find? fun k => k.typeName = name

end InputKind

/-- What a closure gives back. -/
inductive OutputKind where
  | integer
  | float
  | text
  | boolean
  | object
  deriving DecidableEq, Repr

namespace OutputKind

/-- The name of the kind in the scripting language. -/
def typeName : OutputKind → String
  | integer => "int"
  | float => "float"
  | text => "str"
  | boolean => "bool"
  | object => "object"

/-- The name of the kind in diagnostics. -/
def label : OutputKind → String
  | integer => "Integer"
  | float => "Float"
  | text => "Text"
  | boolean => "Boolean"
  | object => "Object"

/-- The kinds. -/
def all : List OutputKind :=
  [integer, float, text, boolean, object]

/-- The kind with a name in the scripting language. -/
def ofTypeName? (name : String) : Option OutputKind :=
  all.find? fun k => k.typeName = name

end OutputKind

/-- What a closure receives and what it gives back. -/
structure Shape where
  input : InputKind
  output : OutputKind
  deriving DecidableEq, Repr

namespace Shape

/-- The shapes that may be exposed. -/
def catalog : List Shape := [
  ⟨.integer, .integer⟩, ⟨.integer, .float⟩, ⟨.integer, .text⟩, ⟨.integer, .boolean⟩,
  ⟨.boolean, .boolean⟩, ⟨.boolean, .integer⟩,
  ⟨.float, .float⟩, ⟨.float, .integer⟩, ⟨.float, .text⟩, ⟨.float, .boolean⟩,
  ⟨.text, .text⟩, ⟨.text, .integer⟩, ⟨.text, .float⟩, ⟨.text, .boolean⟩,
  ⟨.object, .object⟩, ⟨.object, .integer⟩, ⟨.object, .float⟩, ⟨.object, .text⟩,
  ⟨.object, .boolean⟩,
  ⟨.objectPair, .object⟩, ⟨.objectTriple, .object⟩]

/-- Whether a shape may be exposed. -/
def isSupported (s : Shape) : Bool :=
  catalog.contains s

/-- A shape as a function type of the scripting language. -/
def display (s : Shape) : String :=
  "(" ++ s.input.typeName ++ ") -> " ++ s.output.typeName

/-- A shape in diagnostics. -/
def describe (s : Shape) : String :=
  "Shape \x7b input: " ++ s.input.label ++ ", output: " ++ s.output.label ++ " \x7d"

/-- The shape with given names of its kinds. -/
def ofTypeNames? (input output : String) : Option Shape := do
  return ⟨← InputKind.ofTypeName? input, ← OutputKind.ofTypeName? output⟩

theorem isSupported_iff_mem {s : Shape} : s.isSupported = true ↔ s ∈ catalog := by
  simp [isSupported]

end Shape

end ClosureBridge
