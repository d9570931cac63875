import ClosureBridge.Proofs.Interpreter.Growth
import ClosureBridge.Script.Show

/-!
# Values that are told by their structure

Constants, integers and texts, and lists of such values, nested to any depth. A heap holds such a
value in an object; the items of a list are older than the list, since objects are made from objects
that are there. What shows the object is told by the value alone.

## Main definitions

* `Script.Datum`: a value.
* `Script.Datum.integers`: the integers in it.
* `Script.Datum.shown`: the text that shows it.
* `Script.Heap.Holds`: an object is a value.

## Main statements

* `Script.Heap.repr_of_holds`: an object is shown as the value that it is.
* `Script.Heap.holds_of_grows`: an object stays the value that it is.
-/

namespace ClosureBridge.Script

/-- A value that is told by its structure. -/
inductive Datum where
  | none
  | boolean (b : Bool)
  | integer (n : Int64)
  | text (s : String)
  | list (items : List Datum)

namespace Datum

mutual

/-- The integers in a value. -/
def integers : Datum → List Int64
  | integer n => [n]
  | list items => integersAll items
  | _ => []

/-- The integers in values. -/
def integersAll : List Datum → List Int64
  | [] => []
  | d :: ds => d.integers ++ integersAll ds

end

mutual

/-- The text that shows a value. -/
def shown : Datum → String
  | none => "None"
  | boolean b => if b then "True" else "False"
  | integer n => toString n.toInt
  | text s => Heap.literal s
  | list items => Heap.showList (shownAll items)

/-- The texts that show values. -/
def shownAll : List Datum → List String
  | [] => []
  | d :: ds => d.shown :: shownAll ds

end

end Datum

namespace Heap

mutual

/-- The object at a reference is a value. -/
def Holds (h : Heap) : Datum → Ref → Prop
  | .none, r => h.objects[r]? = some .none
  | .boolean b, r => h.objects[r]? = some (.boolean b)
  | .integer n, r => h.objects[r]? = some (.integer n)
  | .text s, r => h.objects[r]? = some (.text s)
  | .list ds, r => ∃ items, h.objects[r]? = some (.list items) ∧ HoldsAll h ds r items

/-- References refer to objects that are values and are older than another one. -/
def HoldsAll (h : Heap) : List Datum → Ref → List (Option Ref) → Prop
  | [], _, items => items = []
  | d :: ds, r, items =>
    ∃ i rest, items = some i :: rest ∧ i < r ∧ Holds h d i ∧ HoldsAll h ds r rest

end

variable {h : Heap}

/-! ### What shows a value -/

mutual

theorem show?_of_holds (descriptors : DescriptorPool) :
    (d : Datum) → ∀ {r n : Nat}, h.Holds d r → r < n →
      show? h descriptors n (some r) = some d.shown
  | .none, r, n + 1, hr, _ => by rw [show?, get_of_getElem? hr]; rfl
  | .boolean b, r, n + 1, hr, _ => by rw [show?, get_of_getElem? hr]; rfl
  | .integer m, r, n + 1, hr, _ => by rw [show?, get_of_getElem? hr]; rfl
  | .text s, r, n + 1, hr, _ => by rw [show?, get_of_getElem? hr]; rfl
  | .list ds, r, n + 1, hr, hlt => by
    obtain ⟨items, hr, hitems⟩ := hr
    rw [show?, get_of_getElem? hr]
    dsimp only
    rw [mapM_show?_of_holdsAll descriptors ds hitems (Nat.le_of_lt_succ hlt)]
    rfl

theorem mapM_show?_of_holdsAll (descriptors : DescriptorPool) :
    (ds : List Datum) → ∀ {r n : Nat} {items : List (Option Ref)}, h.HoldsAll ds r items →
      r ≤ n → items.mapM (show? h descriptors n) = some (Datum.shownAll ds)
  | [], _, _, _, hitems, _ => by
    cases hitems
    rfl
  | d :: ds, r, n, _, hitems, hle => by
    obtain ⟨i, rest, rfl, hi, hd, hds⟩ := hitems
    rw [List.mapM_cons, show?_of_holds descriptors d hd (Nat.lt_of_lt_of_le hi hle),
      mapM_show?_of_holdsAll descriptors ds hds hle]
    rfl

end

/-- An object that is a value is shown as the value. -/
theorem repr_of_holds {d : Datum} {r : Ref} (hr : h.Holds d r) (descriptors : DescriptorPool) :
    h.repr descriptors (some r) = d.shown := by
  rw [repr, depth, show?_of_holds descriptors d hr (Nat.lt_succ_self r), Option.getD_some]

/-! ### Values stay -/

mutual

theorem holds_of_grows {s t : Store} (hst : s.Grows t) :
    (d : Datum) → ∀ {r : Ref}, s.heap.Holds d r → t.heap.Holds d r
  | .none, _, hr => hst.fixed hr rfl
  | .boolean _, _, hr => hst.fixed hr rfl
  | .integer _, _, hr => hst.fixed hr rfl
  | .text _, _, hr => hst.fixed hr rfl
  | .list ds, _, ⟨items, hr, hitems⟩ => ⟨items, hst.fixed hr rfl, holdsAll_of_grows hst ds hitems⟩

theorem holdsAll_of_grows {s t : Store} (hst : s.Grows t) :
    (ds : List Datum) → ∀ {r : Ref} {items : List (Option Ref)}, s.heap.HoldsAll ds r items →
      t.heap.HoldsAll ds r items
  | [], _, _, hitems => hitems
  | d :: ds, _, _, ⟨i, rest, heq, hi, hd, hds⟩ =>
    ⟨i, rest, heq, hi, holds_of_grows hst d hd, holdsAll_of_grows hst ds hds⟩

end

/-- What is older than an object is older than a later one. -/
theorem HoldsAll.mono {r r' : Ref} (hle : r ≤ r') :
    (ds : List Datum) → ∀ {items : List (Option Ref)}, h.HoldsAll ds r items →
      h.HoldsAll ds r' items
  | [], _, hitems => hitems
  | _ :: ds, _, ⟨i, rest, heq, hi, hd, hds⟩ =>
    ⟨i, rest, heq, Nat.lt_of_lt_of_le hi hle, hd, HoldsAll.mono hle ds hds⟩

/-- An object that is a value is there. -/
theorem Holds.lt_size {d : Datum} {r : Ref} (hr : h.Holds d r) : r < h.objects.size := by
  have hsome : ∃ o, h.objects[r]? = some o := by
    cases d with
    | list ds =>
      obtain ⟨items, hr, -⟩ := hr
      exact ⟨_, hr⟩
    | _ => exact ⟨_, hr⟩
  obtain ⟨o, ho⟩ := hsome
  exact (Array.getElem?_eq_some_iff.mp ho).1

end Heap

end ClosureBridge.Script
