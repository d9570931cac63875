import ClosureBridge.Registry
import Mathlib.Data.List.Nodup
import Mathlib.Tactic.ByContra

/-!
# The arena of the registry and its index

The slots, the free list and the index of a registry are three views of one thing: an identifier is
indexed exactly under the slot that holds its entry, and the free list holds every vacant slot once.
`Coherent` says so, and taking a slot and vacating one keep it.

## Main statements

* `Coherent.occupy`, `Coherent.vacate`: taking a slot and vacating one keep the views in step.
* `Coherent.insert`, `Coherent.remove`: so do the operations, which say what becomes of the entries.
* `Coherent.mem_entries_iff`: the entries in slot order are those of the identifiers.
-/

namespace ClosureBridge.Registry

variable {κ : Type} {r : Registry κ} {id other : Ident} {shape : Shape} {call : κ}

/-- The slots, the free list and the index say the same. -/
structure Coherent (r : Registry κ) : Prop where
  /-- An identifier is indexed once. -/
  index_nodup : (r.index.map Prod.fst).Nodup
  /-- An identifier is indexed under the slot that holds its entry. -/
  slotOf?_iff : ∀ {id : Ident} {n : Nat},
    r.slotOf? id = some n ↔ ∃ e, r.slots[n]? = some (some e) ∧ e.id = id
  /-- The free list holds the vacant slots. -/
  mem_free : ∀ {n : Nat}, n ∈ r.free ↔ r.slots[n]? = some none
  /-- The free list holds a slot once. -/
  free_nodup : r.free.Nodup

theorem slotOf?_eq_none_iff : r.slotOf? id = none ↔ id ∉ r.index.map Prod.fst := by
  simp only [slotOf?, List.lookup_eq_none_iff, List.mem_map, not_exists, not_and, bne_iff_ne, ne_eq]
  exact ⟨fun h e he hid => h e he hid.symm, fun h e he hid => h e he hid.symm⟩

theorem contains_eq_false_iff : r.contains id = false ↔ r.slotOf? id = none := by
  simp [contains]

theorem lookup_unindexed_self (r : Registry κ) (id : Ident) :
    (r.unindexed id).lookup id = none := by
  rw [List.lookup_eq_none_iff]
  intro e he
  have hne := (List.mem_filter.mp he).2
  rw [Bool.not_eq_true', beq_eq_false_iff_ne] at hne
  exact bne_iff_ne.mpr (Ne.symm hne)

theorem lookup_filter_of_ne (h : other ≠ id) (l : List (Ident × Nat)) :
    (l.filter fun e => !(e.1 == id)).lookup other = l.lookup other := by
  induction l with
  | nil => rfl
  | cons e l ih =>
    obtain ⟨name, n⟩ := e
    by_cases hn : name = id
    · subst hn
      simpa [List.lookup_cons, beq_eq_false_iff_ne.mpr h] using ih
    · simp only [List.filter_cons, beq_eq_false_iff_ne.mpr hn, Bool.not_false, if_true,
        List.lookup_cons, ih]

/-- An empty registry is coherent. -/
theorem coherent_empty : Coherent ({} : Registry κ) where
  index_nodup := List.nodup_nil
  slotOf?_iff := by simp [slotOf?]
  mem_free := by simp
  free_nodup := List.nodup_nil

namespace Coherent

/-- The slot of an indexed identifier lies in the arena. -/
theorem slotOf?_lt (h : r.Coherent) {n : Nat} (hn : r.slotOf? id = some n) : n < r.slots.size := by
  obtain ⟨e, he, _⟩ := h.slotOf?_iff.mp hn
  exact (Array.getElem?_eq_some_iff.mp he).1

/-- A slot on the free list lies in the arena. -/
theorem free_lt (h : r.Coherent) {n : Nat} (hn : n ∈ r.free) : n < r.slots.size :=
  (Array.getElem?_eq_some_iff.mp (h.mem_free.mp hn)).1

/-- An identifier has the entry that its slot holds. -/
theorem entry?_iff (h : r.Coherent) {e : RegistryEntry κ} :
    r.entry? id = some e ↔ (∃ n : Nat, r.slots[n]? = some (some e)) ∧ e.id = id := by
  constructor
  · intro he
    obtain ⟨n, hn, hs⟩ := Option.bind_eq_some_iff.mp he
    rw [Option.join_eq_some_iff] at hs
    obtain ⟨e', hs', hid⟩ := h.slotOf?_iff.mp hn
    obtain rfl : e = e' := by simpa [hs] using hs'
    exact ⟨⟨n, hs⟩, hid⟩
  · rintro ⟨⟨n, hs⟩, hid⟩
    have hn : r.slotOf? id = some n := h.slotOf?_iff.mpr ⟨e, hs, hid⟩
    unfold entry?
    simp [hn, hs]

/-- An identifier is registered exactly when it has an entry. -/
theorem entry?_eq_none_iff (h : r.Coherent) : r.entry? id = none ↔ r.contains id = false := by
  rw [contains_eq_false_iff]
  constructor
  · intro he
    by_contra hs
    obtain ⟨n, hn⟩ := Option.ne_none_iff_exists'.mp hs
    obtain ⟨e, hs, hid⟩ := h.slotOf?_iff.mp hn
    rw [h.entry?_iff.mpr ⟨⟨n, hs⟩, hid⟩] at he
    cases he
  · intro hs
    unfold entry?
    simp [hs]

/-- A slot that was not occupied is taken by an identifier that was not registered. -/
theorem occupy (h : r.Coherent) (hid : r.contains id = false) {slot : Nat}
    {slots : Array (Option (RegistryEntry κ))} {free : List Nat}
    (hself : slots[slot]? = some (some ⟨id, shape, call⟩))
    (hother : ∀ n, n ≠ slot → slots[n]? = r.slots[n]?)
    (hvacant : ∀ e, r.slots[slot]? ≠ some (some e))
    (hfree : ∀ n, n ∈ free ↔ n ≠ slot ∧ n ∈ r.free) (hnodup : free.Nodup) :
    Coherent (⟨slots, free, (id, slot) :: r.index⟩ : Registry κ) := by
  have hnone : r.slotOf? id = none := contains_eq_false_iff.mp hid
  refine ⟨?_, ?_, ?_, hnodup⟩
  · rw [List.map_cons, List.nodup_cons]
    exact ⟨slotOf?_eq_none_iff.mp hnone, h.index_nodup⟩
  · intro other n
    rw [slotOf?, List.lookup_cons]
    by_cases ho : other = id
    · subst ho
      simp only [BEq.rfl, Option.some.injEq]
      constructor
      · rintro rfl
        exact ⟨_, hself, rfl⟩
      · rintro ⟨e, he, hid'⟩
        by_contra hne
        rw [hother n (Ne.symm hne)] at he
        rw [h.slotOf?_iff.mpr ⟨e, he, hid'⟩] at hnone
        cases hnone
    · rw [beq_eq_false_iff_ne.mpr ho]
      change r.slotOf? other = some n ↔ _
      rw [h.slotOf?_iff]
      by_cases hn : n = slot
      · subst hn
        constructor
        · rintro ⟨e, he, -⟩
          exact absurd he (hvacant e)
        · rintro ⟨e, he, hid'⟩
          rw [hself, Option.some.injEq, Option.some.injEq] at he
          exact absurd (by rw [← hid', ← he]) ho
      · rw [hother n hn]
  · intro n
    rw [hfree]
    by_cases hn : n = slot
    · subst hn
      simp [hself]
    · rw [hother n hn, h.mem_free]
      exact and_iff_right hn

/-- The slot of an identifier is vacated. -/
theorem vacate (h : r.Coherent) {slot : Nat} (hslot : r.slotOf? id = some slot) :
    Coherent (⟨r.slots.setIfInBounds slot none, slot :: r.free, r.unindexed id⟩ : Registry κ) := by
  obtain ⟨entry, hentry, hid⟩ := h.slotOf?_iff.mp hslot
  have hlt : slot < r.slots.size := h.slotOf?_lt hslot
  refine ⟨?_, ?_, ?_, ?_⟩
  · exact h.index_nodup.sublist (List.filter_sublist.map Prod.fst)
  · intro other n
    rw [slotOf?]
    by_cases ho : other = id
    · subst ho
      rw [lookup_unindexed_self]
      simp only [reduceCtorEq, false_iff, not_exists, not_and]
      intro e he hid'
      by_cases hn : slot = n
      · subst hn
        simp [Array.getElem?_setIfInBounds_self_of_lt hlt] at he
      · rw [Array.getElem?_setIfInBounds_ne hn] at he
        have hslot' := h.slotOf?_iff.mpr ⟨e, he, hid'⟩
        rw [hslot, Option.some.injEq] at hslot'
        exact hn hslot'
    · rw [unindexed, lookup_filter_of_ne ho]
      change r.slotOf? other = some n ↔ _
      rw [h.slotOf?_iff]
      by_cases hn : slot = n
      · subst hn
        rw [hentry, Array.getElem?_setIfInBounds_self_of_lt hlt]
        simp [hid, Ne.symm ho]
      · rw [Array.getElem?_setIfInBounds_ne hn]
  · intro n
    rw [List.mem_cons]
    by_cases hn : slot = n
    · subst hn
      simp [Array.getElem?_setIfInBounds_self_of_lt hlt]
    · rw [Array.getElem?_setIfInBounds_ne hn, h.mem_free]
      exact or_iff_right (Ne.symm hn)
  · rw [List.nodup_cons]
    refine ⟨?_, h.free_nodup⟩
    rw [h.mem_free, hentry]
    simp

/-! ### The operations -/

/-- A registration that is not refused adds one entry and leaves the others. -/
theorem insert (h : r.Coherent) (hid : r.contains id = false) (shape : Shape) (call : κ) :
    ∃ r', r.insert id shape call = .ok r' ∧ r'.Coherent ∧
      r'.entry? id = some ⟨id, shape, call⟩ ∧
      (∀ other, other ≠ id → r'.entry? other = r.entry? other) ∧
      r'.index.map Prod.fst = id :: r.index.map Prod.fst := by
  have hnone : r.slotOf? id = none := contains_eq_false_iff.mp hid
  have frame {slot : Nat} {slots : Array (Option (RegistryEntry κ))} {free : List Nat}
      (hother : ∀ n, n ≠ slot → slots[n]? = r.slots[n]?)
      (hvacant : ∀ e, r.slots[slot]? ≠ some (some e)) (other : Ident) (ho : other ≠ id) :
      entry? ⟨slots, free, (id, slot) :: r.index⟩ other = r.entry? other := by
    unfold entry?
    rw [slotOf?, List.lookup_cons, beq_eq_false_iff_ne.mpr ho]
    change (r.slotOf? other).bind _ = (r.slotOf? other).bind _
    refine Option.bind_congr fun n hn => ?_
    obtain ⟨e, he, -⟩ := h.slotOf?_iff.mp hn
    rw [hother n (by rintro rfl; exact hvacant e he)]
  unfold Registry.insert
  rw [if_neg (by simp [hid])]
  cases hfree : r.free with
  | nil =>
    have hself : (r.slots.push (some ⟨id, shape, call⟩))[r.slots.size]? =
        some (some ⟨id, shape, call⟩) := Array.getElem?_push_size
    have hother : ∀ n, n ≠ r.slots.size →
        (r.slots.push (some ⟨id, shape, call⟩))[n]? = r.slots[n]? := by
      intro n hn
      rw [Array.getElem?_push, if_neg hn]
    have hvacant : ∀ e, r.slots[r.slots.size]? ≠ some (some e) := by simp
    have hfree' : ∀ n, n ∈ ([] : List Nat) ↔ n ≠ r.slots.size ∧ n ∈ r.free := by simp [hfree]
    have hc := h.occupy hid hself hother hvacant hfree' List.nodup_nil
    exact ⟨_, rfl, hc, hc.entry?_iff.mpr ⟨⟨_, hself⟩, rfl⟩, frame hother hvacant, rfl⟩
  | cons slot free =>
    have hslot : r.slots[slot]? = some none := h.mem_free.mp (by simp [hfree])
    have hlt : slot < r.slots.size := (Array.getElem?_eq_some_iff.mp hslot).1
    have hself : (r.slots.setIfInBounds slot (some ⟨id, shape, call⟩))[slot]? =
        some (some ⟨id, shape, call⟩) := Array.getElem?_setIfInBounds_self_of_lt hlt
    have hother : ∀ n, n ≠ slot →
        (r.slots.setIfInBounds slot (some ⟨id, shape, call⟩))[n]? = r.slots[n]? :=
      fun n hn => Array.getElem?_setIfInBounds_ne (Ne.symm hn)
    have hvacant : ∀ e, r.slots[slot]? ≠ some (some e) := by simp [hslot]
    have hnodup := h.free_nodup
    rw [hfree, List.nodup_cons] at hnodup
    have hfree' : ∀ n, n ∈ free ↔ n ≠ slot ∧ n ∈ r.free := by grind
    have hc := h.occupy hid hself hother hvacant hfree' hnodup.2
    exact ⟨_, rfl, hc, hc.entry?_iff.mpr ⟨⟨_, hself⟩, rfl⟩, frame hother hvacant, rfl⟩

/-- What a registration that was not refused has done. -/
theorem of_insert (h : r.Coherent) {r' : Registry κ} (hr : r.insert id shape call = .ok r') :
    r.contains id = false ∧ r'.Coherent ∧ r'.entry? id = some ⟨id, shape, call⟩ ∧
      ∀ other, other ≠ id → r'.entry? other = r.entry? other := by
  cases hid : r.contains id with
  | true =>
    rw [insert_of_contains hid] at hr
    cases hr
  | false =>
    obtain ⟨r'', hr'', hc, hself, hother, -⟩ := h.insert hid shape call
    rw [hr, Except.ok.injEq] at hr''
    subst hr''
    exact ⟨rfl, hc, hself, hother⟩

/-- A removal gives the shape of the entry, takes it out and leaves the others. -/
theorem remove (h : r.Coherent) (id : Ident) :
    (r.remove id).1 = (r.entry? id).map RegistryEntry.shape ∧ (r.remove id).2.Coherent ∧
      Registry.entry? (r.remove id).2 id = none ∧
      (∀ other, other ≠ id → Registry.entry? (r.remove id).2 other = r.entry? other) ∧
      (r.remove id).2.index = r.unindexed id := by
  cases hslot : r.slotOf? id with
  | none =>
    have hid : r.contains id = false := contains_eq_false_iff.mpr hslot
    rw [remove_of_not_contains hid, h.entry?_eq_none_iff.mpr hid]
    refine ⟨rfl, h, rfl, fun _ _ => rfl, ?_⟩
    rw [unindexed, eq_comm, List.filter_eq_self]
    intro e he
    rw [Bool.not_eq_true', beq_eq_false_iff_ne]
    rintro rfl
    exact slotOf?_eq_none_iff.mp hslot (List.mem_map_of_mem he)
  | some slot =>
    obtain ⟨entry, hentry, hid⟩ := h.slotOf?_iff.mp hslot
    have he : r.entry? id = some entry := h.entry?_iff.mpr ⟨⟨slot, hentry⟩, hid⟩
    have hr : r.remove id = (some entry.shape,
        ⟨r.slots.setIfInBounds slot none, slot :: r.free, r.unindexed id⟩) := by
      simp [Registry.remove, hslot, hentry]
    have hc := h.vacate hslot
    rw [hr, he]
    refine ⟨rfl, hc, ?_, ?_, rfl⟩
    · rw [hc.entry?_eq_none_iff, contains_eq_false_iff]
      exact lookup_unindexed_self r id
    · intro other ho
      unfold entry?
      rw [slotOf?, unindexed, lookup_filter_of_ne ho]
      change (r.slotOf? other).bind _ = (r.slotOf? other).bind _
      refine Option.bind_congr fun n hn => ?_
      obtain ⟨e, hne, hid'⟩ := h.slotOf?_iff.mp hn
      have hns : slot ≠ n := by
        rintro rfl
        rw [hentry, Option.some.injEq, Option.some.injEq] at hne
        exact ho (by rw [← hid', ← hne, hid])
      rw [Array.getElem?_setIfInBounds_ne hns]

/-! ### Looking an identifier up -/

theorem get?_eq_none_iff (h : r.Coherent) : r.get? id = none ↔ r.contains id = false := by
  rw [get?, Option.map_eq_none_iff, h.entry?_eq_none_iff]

/-- What is found after a registration that was not refused. -/
theorem get?_insert (h : r.Coherent) {r' : Registry κ} (hr : r.insert id shape call = .ok r')
    (other : Ident) :
    r'.get? other = if other = id then some (shape, call) else r.get? other := by
  obtain ⟨-, -, hself, hother⟩ := h.of_insert hr
  by_cases ho : other = id
  · subst ho
    rw [if_pos rfl, get?, hself]
    rfl
  · rw [if_neg ho, get?, hother other ho]
    rfl

/-- What is found after a removal. -/
theorem get?_remove (h : r.Coherent) (id other : Ident) :
    (r.remove id).2.get? other = if other = id then none else r.get? other := by
  obtain ⟨-, -, hself, hother, -⟩ := h.remove id
  by_cases ho : other = id
  · subst ho
    rw [if_pos rfl, get?, hself]
    rfl
  · rw [if_neg ho, get?, hother other ho]
    rfl

/-! ### The entries in slot order -/

theorem mem_entries_iff (h : r.Coherent) {e : RegistryEntry κ} :
    e ∈ r.entries ↔ r.entry? e.id = some e := by
  rw [h.entry?_iff, entries, List.mem_filterMap]
  simp [Array.mem_iff_getElem?]

/-- No two entries have one identifier. -/
theorem entries_pairwise (h : r.Coherent) : r.entries.Pairwise fun a b => a.id ≠ b.id := by
  rw [entries, List.pairwise_filterMap, List.pairwise_iff_getElem]
  intro i j hi hj hij a ha b hb hid
  have slot {n : Nat} {e : RegistryEntry κ} (hn : n < r.slots.toList.length)
      (he : r.slots.toList[n] = some e) : r.slotOf? e.id = some n := by
    refine h.slotOf?_iff.mpr ⟨e, ?_, rfl⟩
    rw [← Array.getElem?_toList, List.getElem?_eq_getElem hn, he]
  have hab := slot hi ha
  rw [hid, slot hj hb, Option.some.injEq] at hab
  omega

theorem nodup_idsFor (h : r.Coherent) (shape : Shape) : (r.idsFor shape).Nodup := by
  rw [idsFor, List.Nodup, List.pairwise_map]
  exact h.entries_pairwise.sublist List.filter_sublist

theorem mem_idsFor_iff (h : r.Coherent) :
    id ∈ r.idsFor shape ↔ ∃ e, r.entry? id = some e ∧ e.shape = shape := by
  simp only [idsFor, List.mem_map, List.mem_filter, decide_eq_true_eq, h.mem_entries_iff]
  constructor
  · rintro ⟨e, ⟨he, hs⟩, rfl⟩
    exact ⟨e, he, hs⟩
  · rintro ⟨e, he, hs⟩
    have hid : e.id = id := (h.entry?_iff.mp he).2
    exact ⟨e, ⟨by rw [hid, he], hs⟩, hid⟩

end Coherent

end ClosureBridge.Registry
