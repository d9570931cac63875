import ClosureBridge.Descriptor
import ClosureBridge.Number.FloatText
import ClosureBridge.Script.Heap
import ClosureBridge.Text.Replace

/-!
# The text of an object

A list shows its items, and an item is older than the list that holds it; so the place of an
object in the heap bounds the depth of its text.

## Main definitions

* `Heap.show?`: the text that shows an object, up to a depth.
* `Heap.repr`: the text that shows an object.
* `Heap.str`: the text that an object converts to.
-/

namespace ClosureBridge.Script.Heap

/-- A text as a literal. -/
def literal (s : String) : String :=
  "'" ++ Replace.text "'" "\\'" (Replace.text "\\" "\\\\" s) ++ "'"

/-- The text of an object without items. -/
def showLeaf (descriptors : DescriptorPool) : Object → String
  | .none => "None"
  | .boolean b => if b then "True" else "False"
  | .integer n => toString n.toInt
  | .float v => FloatText.write v
  | .text s => literal s
  | .list _ => "[...]"
  | .tuple _ => "(...)"
  | .dict names => "\x7b" ++ toString names.size ++ " items\x7d"
  | .record _ => "namespace()"
  | .callable d _ => "<built-in function " ++ descriptors.name d ++ ">"
  | .function .. => "<function <lambda>>"
  | .output _ => "<_PyLambdaOutput object>"
  | .code => "<code object <module>>"

/-- The text of a list, of the texts of its items. -/
def showList (items : List String) : String :=
  "[" ++ String.intercalate ", " items ++ "]"

/-- The text of a tuple, of the texts of its items. -/
def showTuple : List String → String
  | [item] => "(" ++ item ++ ",)"
  | items => "(" ++ String.intercalate ", " items ++ ")"

/-- The text that shows an object whose items nest at most to a depth. -/
def show? (h : Heap) (descriptors : DescriptorPool) : Nat → Option Ref → Option String
  | _, none => some "<NULL>"
  | 0, some _ => none
  | n + 1, some r =>
    match h.get (some r) with
    | .list items => (items.mapM (show? h descriptors n)).map showList
    | .tuple items => (items.mapM (show? h descriptors n)).map showTuple
    | o => some (showLeaf descriptors o)

/-- The depth that suffices for an object: its items are older. -/
def depth : Option Ref → Nat
  | some r => r + 1
  | none => 0

/-- The text that shows an object. -/
def repr (h : Heap) (descriptors : DescriptorPool) (r : Option Ref) : String :=
  (show? h descriptors (depth r) r).getD ""

/-- The text that an object converts to: itself if it is a text, else what shows it. -/
def str (h : Heap) (descriptors : DescriptorPool) (r : Option Ref) : String :=
  match h.get r with
  | .text s => s
  | _ => h.repr descriptors r

end ClosureBridge.Script.Heap
