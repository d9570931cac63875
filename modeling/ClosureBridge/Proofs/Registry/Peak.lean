import ClosureBridge.Proofs.Registry.FiniteMap
import Mathlib.Order.Bounds.Basic

/-!
# The size of the arena

The slots of the indexed identifiers and those on the free list are the slots of the arena, each of
them once. A registration takes a new slot only when no slot is vacant, and a removal keeps the slot
that it vacates; so the arena is as large as its entries were many at some time, and no larger.

## Main statements

* `Coherent.perm_range`: indexed and vacant slots are all slots, each once.
* `Holds.slots_size_perform`: an operation enlarges the arena only as far as its entries need.
* `isGreatest_slots_size`: the arena has as many slots as there were entries at most.
-/

namespace ClosureBridge.Registry

variable {κ : Type} {r : Registry κ} {m : Contents κ} {id : Ident} {n : Nat}

namespace Coherent

/-- A pair of the index is what looking its identifier up finds. -/
theorem slotOf?_of_mem (h : r.Coherent) (hmem : (id, n) ∈ r.index) : r.slotOf? id = some n := by
  obtain ⟨before, after, hindex⟩ := List.append_of_mem hmem
  have hnodup := h.index_nodup
  rw [hindex, List.map_append, List.map_cons, List.nodup_append] at hnodup
  rw [slotOf?, List.lookup_eq_some_iff]
  refine ⟨before, after, hindex, fun e he => bne_iff_ne.mpr fun hid => ?_⟩
  exact hnodup.2.2 e.1 (List.mem_map_of_mem he) id List.mem_cons_self hid.symm

theorem mem_index_iff (h : r.Coherent) : (id, n) ∈ r.index ↔ r.slotOf? id = some n := by
  refine ⟨h.slotOf?_of_mem, fun hslot => ?_⟩
  rw [slotOf?, List.lookup_eq_some_iff] at hslot
  obtain ⟨before, after, hindex, -⟩ := hslot
  simp [hindex]

/-- The index has a slot once. -/
theorem nodup_slots (h : r.Coherent) : (r.index.map Prod.snd).Nodup := by
  refine List.Nodup.map_on ?_ h.index_nodup.of_map
  rintro ⟨id, n⟩ hid ⟨other, n'⟩ hother (rfl : n = n')
  obtain ⟨e, he, rfl⟩ := h.slotOf?_iff.mp (h.slotOf?_of_mem hid)
  obtain ⟨e', he', rfl⟩ := h.slotOf?_iff.mp (h.slotOf?_of_mem hother)
  simp_all

theorem mem_slots_iff (h : r.Coherent) :
    n ∈ r.index.map Prod.snd ↔ ∃ e, r.slots[n]? = some (some e) := by
  simp only [List.mem_map, Prod.exists, exists_eq_right, h.mem_index_iff, h.slotOf?_iff]
  exact ⟨fun ⟨_, e, he, _⟩ => ⟨e, he⟩, fun ⟨e, he⟩ => ⟨e.id, e, he, rfl⟩⟩

/-- Indexed and vacant slots are the slots of the arena, each once. -/
theorem perm_range (h : r.Coherent) :
    (r.index.map Prod.snd ++ r.free).Perm (List.range r.slots.size) := by
  have hnodup : (r.index.map Prod.snd ++ r.free).Nodup := by
    refine List.nodup_append.mpr ⟨h.nodup_slots, h.free_nodup, ?_⟩
    rintro n hn _ hfree rfl
    obtain ⟨e, he⟩ := h.mem_slots_iff.mp hn
    rw [h.mem_free, he] at hfree
    simp at hfree
  rw [List.perm_ext_iff_of_nodup hnodup List.nodup_range]
  intro n
  rw [List.mem_append, h.mem_slots_iff, h.mem_free, List.mem_range]
  by_cases hn : n < r.slots.size
  · rw [Array.getElem?_eq_getElem hn]
    cases r.slots[n] <;> simp [hn]
  · simp [hn]

/-- A slot of the arena holds an entry or is vacant. -/
theorem slots_size (h : r.Coherent) : r.slots.size = r.size + r.free.length := by
  simpa [size] using h.perm_range.length_eq.symm

end Coherent

/-- A registration that is not refused adds one entry. It takes a vacant slot, or a new one when
none is vacant. -/
theorem sizes_insert {r' : Registry κ} {shape : Shape} {call : κ}
    (hr : r.insert id shape call = .ok r') :
    r'.size = r.size + 1 ∧
      r'.slots.size = if r.free = [] then r.slots.size + 1 else r.slots.size := by
  unfold insert at hr
  split at hr
  · cases hr
  · dsimp only at hr
    split at hr <;> next hfree => cases hr; simp [size, hfree]

/-- A removal keeps the slots. -/
theorem slots_size_remove (r : Registry κ) (id : Ident) :
    (r.remove id).2.slots.size = r.slots.size := by
  unfold remove
  split
  · rfl
  · dsimp only
    split <;> simp

/-- An operation leaves the arena as large as it was, or makes it as large as its entries need. -/
theorem Holds.slots_size_perform (h : r.Holds m) (op : Op κ) :
    (r.perform op).2.slots.size = max r.slots.size (m.perform op).2.keys.card := by
  obtain ⟨-, h'⟩ := h.perform op
  have hsize := h.coherent.slots_size
  have hsize' := h'.coherent.slots_size
  have hcard := h'.size_eq
  suffices hslots : (r.perform op).2.slots.size = r.slots.size ∨
      (r.perform op).2.slots.size = r.slots.size + 1 ∧
        (r.perform op).2.size = r.slots.size + 1 by omega
  cases op with
  | insert id shape call =>
    cases hr : r.insert id shape call with
    | error e => exact .inl (by simp [Registry.perform, hr])
    | ok r' =>
      obtain ⟨hentries, hslots⟩ := sizes_insert hr
      simp only [Registry.perform, hr]
      by_cases hfree : r.free = []
      · simp only [hfree, List.length_nil, if_true] at hsize hslots
        omega
      · exact .inl (by simpa [hfree] using hslots)
  | remove id => exact .inl (slots_size_remove r id)
  | get id | contains id | idsFor shape | size | isEmpty => exact .inl rfl

/-- **The arena is as large as its entries were many at most.** After any operations from an empty
registry on, the number of slots, vacant ones included, is the largest number of entries that were
there at one time: it was reached after some of the operations, and never passed. -/
theorem isGreatest_slots_size (ops : List (Op κ)) :
    IsGreatest {n | ∃ past, past <+: ops ∧ (Contents.after (∅ : Contents κ) past).keys.card = n}
      (after ({} : Registry κ) ops).slots.size := by
  induction ops using List.reverseRecOn with
  | nil => simp [isGreatest_singleton, after, Contents.after]
  | append_singleton ops op ih =>
    have h : (after ({} : Registry κ) ops).Holds (Contents.after ∅ ops) := holds_empty.after ops
    -- one more time counts, the one after the last operation
    have hmoments : {n | ∃ past, past <+: ops ++ [op] ∧
          (Contents.after (∅ : Contents κ) past).keys.card = n} =
        Insert.insert (Contents.after (∅ : Contents κ) (ops ++ [op])).keys.card
          {n | ∃ past, past <+: ops ∧ (Contents.after (∅ : Contents κ) past).keys.card = n} := by
      ext n
      simp only [List.prefix_concat_iff, or_and_right, exists_or, exists_eq_left, Set.mem_ofPred_eq,
        Set.mem_insert_iff, eq_comm (a := n)]
    rw [hmoments, after_concat, Contents.after_concat, h.slots_size_perform op, max_comm]
    exact ih.insert _

end ClosureBridge.Registry
