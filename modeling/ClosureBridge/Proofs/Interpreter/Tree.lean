import ClosureBridge.Script.Show

/-!
# Values nested by lists and tuples

Constants, integers and texts, and lists and tuples of such values, nested to any depth. Scripts
cannot write a tuple down, but the host hands them over. As with lists alone, the items are older
than what holds them, and the text of an object is told by the value that it is.

## Main definitions

* `Script.Tree`: a value.
* `Script.Tree.shown`: the text that shows it.
* `Script.Tree.At`: an object is a value.

## Main statements

* `Script.Tree.At.repr_eq`: an object is shown as the value that it is.
-/

namespace ClosureBridge.Script

/-- A value without items. -/
inductive Leaf where
  | none
  | boolean (b : Bool)
  | integer (n : Int64)
  | text (s : String)
  deriving DecidableEq

namespace Leaf

/-- The object that is the value. -/
def object : Leaf → Object
  | none => .none
  | boolean b => .boolean b
  | integer n => .integer n
  | text s => .text s

/-- The text that shows it. -/
def shown : Leaf → String
  | none => "None"
  | boolean b => if b then "True" else "False"
  | integer n => toString n.toInt
  | text s => Heap.literal s

end Leaf

/-- What holds items. -/
inductive Bracket where
  | list
  | tuple
  deriving DecidableEq

namespace Bracket

/-- The object that holds them. -/
def object : Bracket → List (Option Ref) → Object
  | list, items => .list items
  | tuple, items => .tuple items

/-- Its text, of the texts of the items. -/
def shown : Bracket → List String → String
  | list, items => Heap.showList items
  | tuple, items => Heap.showTuple items

end Bracket

/-- A value nested by lists and tuples. -/
inductive Tree where
  | leaf (l : Leaf)
  | node (b : Bracket) (items : List Tree)

namespace Tree

mutual

/-- The text that shows a value. -/
def shown : Tree → String
  | leaf l => l.shown
  | node b items => b.shown (shownAll items)

/-- The texts that show values. -/
def shownAll : List Tree → List String
  | [] => []
  | t :: ts => t.shown :: shownAll ts

end

mutual

/-- The object at a reference is a value. -/
def At (h : Heap) : Tree → Ref → Prop
  | leaf l, r => h.objects[r]? = some l.object
  | node b ts, r => ∃ items, h.objects[r]? = some (b.object items) ∧ AllAt h ts r items

/-- References refer to objects that are values and are older than another one. -/
def AllAt (h : Heap) : List Tree → Ref → List (Option Ref) → Prop
  | [], _, items => items = []
  | t :: ts, r, items =>
    ∃ i rest, items = some i :: rest ∧ i < r ∧ At h t i ∧ AllAt h ts r rest

end

variable {h : Heap}

/-! ### What shows a value -/

mutual

theorem At.show?_eq (descriptors : DescriptorPool) :
    {t : Tree} → ∀ {r n : Nat}, t.At h r → r < n →
      h.show? descriptors n (some r) = some t.shown
  | leaf l, r, n + 1, hr, _ => by
    rw [Heap.show?, Heap.get_of_getElem? hr]
    cases l <;> rfl
  | node b ts, r, n + 1, ⟨items, hr, hitems⟩, hlt => by
    have hall := AllAt.mapM_show?_eq descriptors hitems (Nat.le_of_lt_succ hlt)
    rw [Heap.show?, Heap.get_of_getElem? hr]
    cases b <;> simp [Bracket.object, hall, shown, Bracket.shown]

theorem AllAt.mapM_show?_eq (descriptors : DescriptorPool) :
    {ts : List Tree} → ∀ {r n : Nat} {items : List (Option Ref)}, AllAt h ts r items → r ≤ n →
      items.mapM (h.show? descriptors n) = some (shownAll ts)
  | [], _, _, _, hitems, _ => by
    cases hitems
    rfl
  | t :: ts, r, n, _, ⟨i, rest, rfl, hi, ht, hts⟩, hle => by
    rw [List.mapM_cons, At.show?_eq descriptors ht (Nat.lt_of_lt_of_le hi hle),
      AllAt.mapM_show?_eq descriptors hts hle]
    rfl

end

/-- An object that is a value is shown as the value. -/
theorem At.repr_eq {t : Tree} {r : Ref} (hr : t.At h r) (descriptors : DescriptorPool) :
    h.repr descriptors (some r) = t.shown := by
  rw [Heap.repr, Heap.depth, At.show?_eq descriptors hr (Nat.lt_succ_self r), Option.getD_some]

end Tree

end ClosureBridge.Script
