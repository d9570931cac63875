import ClosureBridge.Bench.Run
import Mathlib.Tactic.Common

/-!
# Interpreters only grow

An operation of an interpreter that runs no host code makes objects and changes namespaces,
attributes and buffers. It never takes an object away, never turns one into another, and never
closes an interpreter: what the host holds a reference to stays what it was.

## Main definitions

* `Script.Object.isFixed`: an object that never changes.
* `Script.Store.Grows`: what a store may turn into.

## Main statements

* `Script.Store.Grows.trans`: growth after growth.
* `Script.Store.Grows.fixed`: a fixed object is still there.
-/

namespace ClosureBridge.Script

/-- An object that never changes. Namespaces, records and output buffers do. -/
def Object.isFixed : Object → Bool
  | .dict _ => false
  | .record _ => false
  | .output _ => false
  | _ => true

namespace Store

/-- Objects keep their places and their types, fixed ones stay as they are, and interpreters keep
their namespaces. -/
structure Grows (s s' : Store) : Prop where
  objects : ∀ {r : Ref} {o : Object}, s.heap.objects[r]? = some o →
    ∃ o', s'.heap.objects[r]? = some o' ∧ o'.typeName = o.typeName ∧ (o.isFixed = true → o' = o)
  machines : ∀ {n : Nat} {m : Machine}, s.machines[n]? = some m →
    ∃ m', s'.machines[n]? = some m' ∧ m'.main = m.main ∧ m'.builtins = m.builtins ∧
      m'.textConstructor = m.textConstructor

namespace Grows

variable {s t u : Store}

theorem refl (s : Store) : s.Grows s where
  objects h := ⟨_, h, rfl, fun _ => rfl⟩
  machines h := ⟨_, h, rfl, rfl, rfl⟩

theorem trans (h : s.Grows t) (h' : t.Grows u) : s.Grows u where
  objects ho := by
    obtain ⟨o', ho', ht, hf⟩ := h.objects ho
    obtain ⟨o'', ho'', ht', hf'⟩ := h'.objects ho'
    refine ⟨o'', ho'', ht'.trans ht, fun hfix => ?_⟩
    obtain rfl := hf hfix
    exact hf' hfix
  machines hm := by
    obtain ⟨m', hm', h₁, h₂, h₃⟩ := h.machines hm
    obtain ⟨m'', hm'', h₁', h₂', h₃'⟩ := h'.machines hm'
    exact ⟨m'', hm'', h₁'.trans h₁, h₂'.trans h₂, h₃'.trans h₃⟩

/-- A fixed object is still there. -/
theorem fixed (h : s.Grows t) {r : Ref} {o : Object} (ho : s.heap.objects[r]? = some o)
    (hfix : o.isFixed = true) : t.heap.objects[r]? = some o := by
  obtain ⟨o', ho', -, hf⟩ := h.objects ho
  rw [ho', hf hfix]

/-- An interpreter is still there. -/
theorem lt_machines (h : s.Grows t) {n : Nat} (hn : n < s.machines.size) :
    n < t.machines.size := by
  obtain ⟨m', hm', -⟩ := h.machines (Array.getElem?_eq_getElem hn)
  exact (Array.getElem?_eq_some_iff.mp hm').1

/-- A new object at the end of the heap. -/
theorem alloc (s : Store) (o : Object) : s.Grows { s with heap := (s.heap.alloc o).2 } where
  objects ho := by
    have hlt := (Array.getElem?_eq_some_iff.mp ho).1
    exact ⟨_, by rw [Heap.alloc, Array.getElem?_push, if_neg (Nat.ne_of_lt hlt), ho], rfl,
      fun _ => rfl⟩
  machines hm := ⟨_, hm, rfl, rfl, rfl⟩

/-- An object that may change turned into another of its type. -/
theorem set (s : Store) {r : Ref} {o o' : Object} (ho : s.heap.get (some r) = o)
    (ht : o'.typeName = o.typeName) (hfix : o.isFixed = false) :
    s.Grows { s with heap := s.heap.set r o' } where
  objects {r'} x hx := by
    have hlt := (Array.getElem?_eq_some_iff.mp hx).1
    by_cases hr : r = r'
    · subst hr
      obtain rfl : o = x := ho.symm.trans (Heap.get_of_getElem? hx)
      exact ⟨o', by rw [Heap.set, Array.getElem?_setIfInBounds_self_of_lt hlt], ht,
        fun h => by rw [hfix] at h; cases h⟩
    · exact ⟨x, by rw [Heap.set, Array.getElem?_setIfInBounds_ne hr, hx], rfl, fun _ => rfl⟩
  machines hm := ⟨_, hm, rfl, rfl, rfl⟩

/-- An interpreter changed, its namespaces apart. -/
theorem modify (s : Store) (n : Nat) {f : Machine → Machine}
    (hf : ∀ m, (f m).main = m.main ∧ (f m).builtins = m.builtins ∧
      (f m).textConstructor = m.textConstructor) :
    s.Grows { s with machines := s.machines.modify n f } where
  objects ho := ⟨_, ho, rfl, fun _ => rfl⟩
  machines {n'} m hm := by
    by_cases hn : n = n'
    · exact ⟨f m, by rw [Array.getElem?_modify, if_pos hn, hm]; rfl, hf m⟩
    · exact ⟨m, by rw [Array.getElem?_modify, if_neg hn, hm], rfl, rfl, rfl⟩

end Grows

end Store

end ClosureBridge.Script
