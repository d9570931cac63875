import ClosureBridge.Script.Store
import Mathlib.Tactic.Common

/-!
# Items are older than what holds them

Namespaces, records and callables may refer to each other in a circle, since they are bound after
they are made. A list or a tuple gets its items when it is made and never changes, so its items are
older; and the text of an object goes into lists and tuples only. Where that order holds, the
recursion that shows an object ends.

## Main definitions

* `RefWithin`, `Script.Object.Within`: references to the first objects only.
* `Script.Heap.Aged`: the items of every list and tuple are older than it is.
* `Script.Store.Orderly`: a store in which they are and nothing refers to what is not there.

## Main statements

* `Script.Heap.Aged.alloc`, `Script.Heap.Aged.set`: making an object and changing one keep the
  order.
* `Script.Heap.Aged.show?_eq`: the recursion that shows an object ends at its depth.
-/

namespace ClosureBridge

namespace Bindings

variable {α : Type} {p q : α → Prop} {b : Bindings α}

/-- All names are bound to what has a property. -/
def All (p : α → Prop) (b : Bindings α) : Prop :=
  ∀ name a, b.get? name = some a → p a

theorem all_empty : (∅ : Bindings α).All p :=
  nofun

theorem All.insert (h : b.All p) (name : String) {a : α} (ha : p a) : (b.insert name a).All p := by
  intro other a' hget
  by_cases hother : other = name
  · rw [hother, get?_insert_self] at hget
    exact Option.some.inj hget ▸ ha
  · rw [get?_insert_of_ne b hother] at hget
    exact h other a' hget

theorem All.imp (h : b.All p) (hpq : ∀ a, p a → q a) : b.All q :=
  fun name a hget => hpq a (h name a hget)

theorem all_ofList {pairs : List (String × α)} (h : ∀ e ∈ pairs, p e.2) : (ofList pairs).All p := by
  have hfold (b : Bindings α) (hb : b.All p) :
      (pairs.foldl (fun b e => b.insert e.1 e.2) b).All p := by
    induction pairs generalizing b with
    | nil => exact hb
    | cons e rest ih =>
      exact ih (fun e' he' => h e' (List.mem_cons_of_mem e he')) _
        (hb.insert _ (h e List.mem_cons_self))
  exact hfold ∅ all_empty

end Bindings

/-! ### References to the first objects -/

/-- A reference, unless it is missing, refers to one of the first `n` objects. -/
def RefWithin (n : Nat) (r : Option Ref) : Prop :=
  ∀ s ∈ r, s < n

/-- References refer to the first `n` objects. -/
def RefsWithin (n : Nat) (rs : List (Option Ref)) : Prop :=
  ∀ r ∈ rs, RefWithin n r

variable {n m : Nat}

theorem refWithin_none : RefWithin n none :=
  nofun

theorem refWithin_some {r : Ref} : RefWithin n (some r) ↔ r < n :=
  ⟨fun h => h r rfl, fun h _ hs => Option.some.inj hs ▸ h⟩

theorem RefWithin.mono (h : n ≤ m) {r : Option Ref} (hr : RefWithin n r) : RefWithin m r :=
  fun s hs => Nat.lt_of_lt_of_le (hr s hs) h

theorem RefsWithin.mono (h : n ≤ m) {rs : List (Option Ref)} (hrs : RefsWithin n rs) :
    RefsWithin m rs :=
  fun r hr => (hrs r hr).mono h

theorem refsWithin_nil : RefsWithin n [] :=
  nofun

theorem RefsWithin.cons {r : Option Ref} {rs : List (Option Ref)} (hr : RefWithin n r)
    (hrs : RefsWithin n rs) : RefsWithin n (r :: rs) :=
  List.forall_mem_cons.mpr ⟨hr, hrs⟩

namespace Script

namespace Object

/-- An object refers to the first `n` objects only. -/
def Within (n : Nat) : Object → Prop
  | list items => RefsWithin n items
  | tuple items => RefsWithin n items
  | dict names => names.All (RefWithin n)
  | record names => names.All (RefWithin n)
  | callable _ self => RefWithin n self
  | _ => True

theorem Within.mono (h : n ≤ m) {o : Object} (ho : o.Within n) : o.Within m := by
  cases o with
  | list items => exact RefsWithin.mono h ho
  | tuple items => exact RefsWithin.mono h ho
  | dict names => exact Bindings.All.imp ho fun _ hr => hr.mono h
  | record names => exact Bindings.All.imp ho fun _ hr => hr.mono h
  | callable d self => exact RefWithin.mono h ho
  | _ => trivial

theorem Within.items {o : Object} (ho : o.Within n) {items : List (Option Ref)}
    (hitems : o.items? = some items) : RefsWithin n items := by
  cases o with
  | list items' => exact Option.some.inj hitems ▸ ho
  | tuple items' => exact Option.some.inj hitems ▸ ho
  | _ => cases hitems

end Object

/-! ### Heaps -/

namespace Heap

variable {h : Heap} {o : Object}

/-- The items of every list and every tuple are older than it is. -/
def Aged (h : Heap) : Prop :=
  ∀ (r : Ref) (o : Object) items, h.objects[r]? = some o → o.items? = some items →
    RefsWithin r items

/-- Objects refer only to objects that are there. -/
def Closed (h : Heap) : Prop :=
  ∀ (r : Ref) (o : Object), h.objects[r]? = some o → o.Within h.objects.size

theorem Aged.alloc (hh : h.Aged) (ho : o.Within h.objects.size) : (h.alloc o).2.Aged := by
  intro r o' items hr hitems
  rw [Heap.alloc, Array.getElem?_push] at hr
  split at hr
  · next hlast =>
    cases hr
    exact hlast ▸ ho.items hitems
  · exact hh r o' items hr hitems

/-- An object that has no items may be put in the place of another. -/
theorem Aged.set (hh : h.Aged) (ho : o.items? = none) (r : Ref) : (h.set r o).Aged := by
  intro r' o' items hr' hitems
  rw [Heap.set, Array.getElem?_setIfInBounds] at hr'
  split at hr'
  · split at hr'
    · cases hr'
      rw [ho] at hitems
      cases hitems
    · cases hr'
  · exact hh r' o' items hr' hitems

theorem Closed.alloc (hh : h.Closed) (ho : o.Within h.objects.size) : (h.alloc o).2.Closed := by
  intro r o' hr
  have hle : h.objects.size ≤ (h.objects.push o).size := by simp
  rw [Heap.alloc, Array.getElem?_push] at hr
  split at hr
  · cases hr
    exact ho.mono hle
  · exact (hh r o' hr).mono hle

theorem Closed.set (hh : h.Closed) (ho : o.Within h.objects.size) (r : Ref) :
    (h.set r o).Closed := by
  intro r' o' hr'
  rw [Heap.set, Array.size_setIfInBounds]
  rw [Heap.set, Array.getElem?_setIfInBounds] at hr'
  split at hr'
  · split at hr'
    · cases hr'
      exact ho
    · cases hr'
  · exact hh r' o' hr'

/-- So whatever a reference is read as refers to objects that are there. -/
theorem Closed.get (hh : h.Closed) (r : Option Ref) : (h.get r).Within h.objects.size := by
  cases r with
  | none => trivial
  | some r =>
    rw [Heap.get]
    cases hr : h.objects[r]? with
    | none => trivial
    | some o => exact hh r o hr

/-- The items of what a reference is read as are older than it. -/
theorem Aged.get (hh : h.Aged) {r : Ref} {items : List (Option Ref)}
    (hitems : (h.get (some r)).items? = some items) : RefsWithin r items := by
  rw [Heap.get] at hitems
  cases hr : h.objects[r]? with
  | none =>
    rw [hr] at hitems
    cases hitems
  | some o =>
    rw [hr] at hitems
    exact hh r o items hr hitems

/-! ### What shows an object -/

/-- If what shows each item is told from a depth on, so is what shows all of them. -/
theorem exists_mapM_show? (descriptors : DescriptorPool) {items : List (Option Ref)}
    (hitems : ∀ i ∈ items, ∃ text, ∀ k, n ≤ k → h.show? descriptors k i = some text) :
    ∃ texts, ∀ k, n ≤ k → items.mapM (h.show? descriptors k) = some texts := by
  induction items with
  | nil => exact ⟨[], fun _ _ => rfl⟩
  | cons i rest ih =>
    obtain ⟨text, htext⟩ := hitems i List.mem_cons_self
    obtain ⟨texts, htexts⟩ := ih fun i' hi' => hitems i' (List.mem_cons_of_mem i hi')
    refine ⟨text :: texts, fun k hk => ?_⟩
    rw [List.mapM_cons, htext k hk, htexts k hk]
    rfl

/-- The recursion that shows an object ends, however deep it may go, with the same text. -/
theorem Aged.exists_show? (hh : h.Aged) (descriptors : DescriptorPool) (r : Option Ref) :
    ∃ text, ∀ k, depth r ≤ k → h.show? descriptors k r = some text := by
  cases r with
  | none => exact ⟨"<NULL>", fun k _ => by cases k <;> rfl⟩
  | some r =>
    -- By induction on the place of the object, since its items have places before it.
    induction r using Nat.strongRecOn with
    | ind r ih =>
      have hitems {items : List (Option Ref)} (hold : RefsWithin r items) :
          ∃ texts, ∀ k, r ≤ k → items.mapM (h.show? descriptors k) = some texts := by
        refine exists_mapM_show? descriptors fun i hi => ?_
        cases i with
        | none => exact ⟨"<NULL>", fun k _ => by cases k <;> rfl⟩
        | some s =>
          have hs : s < r := hold _ hi s rfl
          obtain ⟨text, htext⟩ := ih s hs
          exact ⟨text, fun k hk => htext k (Nat.le_trans hs hk)⟩
      have hstep (text : String) (htext : ∀ k, r ≤ k →
          h.show? descriptors (k + 1) (some r) = some text) :
          ∃ text, ∀ k, depth (some r) ≤ k → h.show? descriptors k (some r) = some text := by
        refine ⟨text, fun k hk => ?_⟩
        obtain ⟨k, rfl⟩ := Nat.exists_eq_add_of_lt hk
        exact htext _ (by omega)
      cases ho : h.get (some r) with
      | list items =>
        obtain ⟨texts, htexts⟩ := hitems (hh.get (by rw [ho]; rfl))
        exact hstep (showList texts) fun k hk => by simp [show?, ho, htexts k hk]
      | tuple items =>
        obtain ⟨texts, htexts⟩ := hitems (hh.get (by rw [ho]; rfl))
        exact hstep (showTuple texts) fun k hk => by simp [show?, ho, htexts k hk]
      | _ => exact hstep _ fun k _ => by rw [show?, ho]

/-- **The recursion that shows an object ends** at the depth of the object, whatever the object is,
and goes no deeper when it may. -/
theorem Aged.show?_eq (hh : h.Aged) (descriptors : DescriptorPool) {r : Option Ref} {k : Nat}
    (hk : depth r ≤ k) : h.show? descriptors k r = some (h.repr descriptors r) := by
  obtain ⟨text, htext⟩ := hh.exists_show? descriptors r
  rw [htext k hk, Heap.repr, htext _ (Nat.le_refl _), Option.getD_some]

end Heap

/-! ### Stores -/

namespace Store

/-- The number of objects. -/
def extent (s : Store) : Nat :=
  s.heap.objects.size

/-- Items are older than what holds them, and nothing refers to what is not there. -/
structure Orderly (s : Store) : Prop where
  aged : s.heap.Aged
  closed : s.heap.Closed
  machines : ∀ (k : Nat) (m : Machine), s.machines[k]? = some m →
    m.main < s.extent ∧ m.builtins < s.extent

variable {s : Store} {o : Object}

theorem orderly_empty : ({} : Store).Orderly where
  aged := nofun
  closed := nofun
  machines := nofun

@[simp] theorem extent_alloc (s : Store) (o : Object) :
    Store.extent { s with heap := (s.heap.alloc o).2 } = s.extent + 1 := by
  simp [extent, Heap.alloc]

@[simp] theorem extent_set (s : Store) (r : Ref) (o : Object) :
    Store.extent { s with heap := s.heap.set r o } = s.extent := by
  simp [extent, Heap.set]

namespace Orderly

theorem alloc (h : s.Orderly) (ho : o.Within s.extent) :
    Store.Orderly { s with heap := (s.heap.alloc o).2 } where
  aged := h.aged.alloc ho
  closed := h.closed.alloc ho
  machines k m hm := by
    rw [extent_alloc]
    exact ⟨Nat.lt_succ_of_lt (h.machines k m hm).1, Nat.lt_succ_of_lt (h.machines k m hm).2⟩

/-- An object without items, changed. -/
theorem set (h : s.Orderly) (ho : o.Within s.extent) (hitems : o.items? = none) (r : Ref) :
    Store.Orderly { s with heap := s.heap.set r o } where
  aged := h.aged.set hitems r
  closed := h.closed.set ho r
  machines k m hm := by
    rw [extent_set]
    exact h.machines k m hm

/-- An interpreter changed, its namespaces apart. -/
theorem modify (h : s.Orderly) (k : Nat) {f : Machine → Machine}
    (hf : ∀ m, (f m).main = m.main ∧ (f m).builtins = m.builtins) :
    Store.Orderly { s with machines := s.machines.modify k f } where
  aged := h.aged
  closed := h.closed
  machines k' m hm := by
    rw [Array.getElem?_modify] at hm
    split at hm
    · obtain ⟨m', hm', rfl⟩ := Option.map_eq_some_iff.mp hm
      rw [(hf m').1, (hf m').2]
      exact h.machines k' m' hm'
    · exact h.machines k' m hm

/-- One more interpreter. -/
theorem push (h : s.Orderly) {m : Machine} (hmain : m.main < s.extent)
    (hbuiltins : m.builtins < s.extent) :
    Store.Orderly { s with machines := s.machines.push m } where
  aged := h.aged
  closed := h.closed
  machines k m' hm' := by
    rw [Array.getElem?_push] at hm'
    split at hm'
    · cases hm'
      exact ⟨hmain, hbuiltins⟩
    · exact h.machines k m' hm'

/-- The namespaces of an interpreter are there. One that is missing is read as one over the first
object. -/
theorem machine (h : s.Orderly) (hpos : 0 < s.extent) (k : Nat) :
    ((s.machines[k]?).getD default).main < s.extent ∧
      ((s.machines[k]?).getD default).builtins < s.extent := by
  cases hm : s.machines[k]? with
  | none => exact ⟨hpos, hpos⟩
  | some m => exact h.machines k m hm

end Orderly

end Store

end Script

end ClosureBridge
