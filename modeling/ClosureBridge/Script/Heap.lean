import ClosureBridge.Bindings
import ClosureBridge.Script.Expr
import ClosureBridge.Value

/-!
# Objects of scripts

The objects that scripts work on live in one heap and are never freed. Objects refer to each other
by reference; a missing reference inside an object shows that a conversion failed earlier.

## Main definitions

* `OutputBuffer`: captured text with a mark.
* `Object`: an object.
* `Heap`: all objects, in the order in which they were made.
* `Heap.alloc`, `Heap.get`, `Heap.set`.
-/

namespace ClosureBridge.Script

/-- Captured text with a mark, counted in octets. -/
structure OutputBuffer where
  text : String := ""
  mark : Nat := 0
  deriving DecidableEq, Repr

namespace OutputBuffer

/-- The number of octets that a character is written in. -/
def width (c : Char) : Nat :=
  c.utf8Size

/-- The rest of a text after a number of octets, unless that is inside a character or past the
end. -/
def dropOctets : List Char → Nat → Option (List Char)
  | [], n => if n = 0 then some [] else none
  | c :: text, n =>
    if n = 0 then some (c :: text)
    else if width c ≤ n then dropOctets text (n - width c)
    else none

/-- Add text at the end. -/
def write (b : OutputBuffer) (text : String) : OutputBuffer :=
  { b with text := b.text ++ text }

/-- The text after the mark. -/
def recent? (b : OutputBuffer) : Option String :=
  (dropOctets b.text.toList b.mark).map String.ofList

/-- Move the mark to the end. -/
def moveMark (b : OutputBuffer) : OutputBuffer :=
  { b with mark := b.text.utf8ByteSize }

end OutputBuffer

/-- An object. -/
inductive Object where
  | none
  | boolean (b : Bool)
  | integer (n : Int64)
  | float (v : Float)
  | text (s : String)
  | tuple (items : List (Option Ref))
  | list (items : List (Option Ref))
  | dict (names : Bindings (Option Ref))
  /-- An object that takes attributes. -/
  | record (names : Bindings (Option Ref))
  /-- A callable of the host: its descriptor, and the object that it is called with. -/
  | callable (descriptor : Nat) (self : Option Ref)
  | function (params : List String) (body : Expr)
  | output (buffer : OutputBuffer)
  /-- Source that has been compiled. -/
  | code

namespace Object

/-- The name of an object's type. -/
def typeName : Object → String
  | none => "NoneType"
  | boolean _ => "bool"
  | integer _ => "int"
  | float _ => "float"
  | text _ => "str"
  | tuple _ => "tuple"
  | list _ => "list"
  | dict _ => "dict"
  | record _ => "SimpleNamespace"
  | callable .. => "builtin_function_or_method"
  | function .. => "function"
  | output _ => "_PyLambdaOutput"
  | code => "code"

/-- The items of a list or a tuple. -/
def items? : Object → Option (List (Option Ref))
  | list items => some items
  | tuple items => some items
  | _ => .none

end Object

/-- All objects, in the order in which they were made; a reference is the place of its object. -/
structure Heap where
  objects : Array Object := #[]

namespace Heap

/-- The object that a reference refers to. What refers to nothing is read as the object that
stands for none. -/
def get (h : Heap) : Option Ref → Object
  | some r => (h.objects[r]?).getD .none
  | none => .none

/-- Make an object. -/
def alloc (h : Heap) (o : Object) : Ref × Heap :=
  (h.objects.size, ⟨h.objects.push o⟩)

/-- Change the object that a reference refers to. -/
def set (h : Heap) (r : Ref) (o : Object) : Heap :=
  ⟨h.objects.setIfInBounds r o⟩

theorem get_of_getElem? {h : Heap} {r : Ref} {o : Object} (hr : h.objects[r]? = some o) :
    h.get (some r) = o := by
  rw [get, hr, Option.getD_some]

@[simp] theorem get_alloc_self (h : Heap) (o : Object) :
    (h.alloc o).2.get (some (h.alloc o).1) = o := by
  simp [alloc, get]

theorem get_alloc_of_lt (h : Heap) (o : Object) {r : Ref} (hr : r < h.objects.size) :
    (h.alloc o).2.get (some r) = h.get (some r) := by
  simp [alloc, get, Array.getElem?_push, Nat.ne_of_lt hr]

end Heap

end ClosureBridge.Script
