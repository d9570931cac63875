import ClosureBridge.Proofs.Registry.Arena
import Mathlib.Data.Finmap

/-!
# The registry as a finite map

A registry answers as a plain finite map from identifiers to shapes and closures does, which knows
nothing of slots: the arena, its free list and its index cannot be told from outside.

## Main definitions

* `Contents`: a plain finite map from identifiers to shapes and closures.
* `Op`, `Answer`: an operation, and what it answers.
* `perform`, `Contents.perform`: an operation on a registry, and on a finite map.
* `opened?`: the slot whose number an operation looks up in the arena.
* `Holds`: a registry that holds what a finite map does.

## Main statements

* `Holds.perform`: an operation answers the same on both sides and keeps them in step.
* `after_eq_contents`: the answers of any operations, and the registry that they lead to.
-/

namespace ClosureBridge

/-- A plain finite map from identifiers to shapes and closures. -/
abbrev Contents (κ : Type) := Finmap fun _ : Ident => Shape × κ

namespace Registry

variable {κ : Type}

/-- An operation on a registry. -/
inductive Op (κ : Type) where
  | insert (id : Ident) (shape : Shape) (call : κ)
  | remove (id : Ident)
  | get (id : Ident)
  | contains (id : Ident)
  | idsFor (shape : Shape)
  | size
  | isEmpty

/-- What an operation answers. Identifiers are counted and not ordered, since a finite map has no
order to give them in. -/
inductive Answer (κ : Type) where
  | inserted (outcome : Except RegistryError Unit)
  | removed (shape : Option Shape)
  | found (entry : Option (Shape × κ))
  | truth (b : Bool)
  | identifiers (ids : Multiset Ident)
  | count (n : Nat)

/-- An operation on a registry: its answer, and the registry after it. -/
def perform (r : Registry κ) : Op κ → Answer κ × Registry κ
  | .insert id shape call =>
    match r.insert id shape call with
    | .ok r => (.inserted (.ok ()), r)
    | .error e => (.inserted (.error e), r)
  | .remove id => (.removed (r.remove id).1, (r.remove id).2)
  | .get id => (.found (r.get? id), r)
  | .contains id => (.truth (r.contains id), r)
  | .idsFor shape => (.identifiers (r.idsFor shape), r)
  | .size => (.count r.size, r)
  | .isEmpty => (.truth r.isEmpty, r)

/-- The slot whose number an operation looks up in the arena. -/
def opened? (r : Registry κ) : Op κ → Option Nat
  | .insert id _ _ => if r.contains id then none else r.free.head?
  | .remove id => r.slotOf? id
  | .get id => r.slotOf? id
  | _ => none

/-- The registry after operations, performed in order. -/
def after (r : Registry κ) (ops : List (Op κ)) : Registry κ :=
  ops.foldl (fun r op => (r.perform op).2) r

theorem after_concat (r : Registry κ) (ops : List (Op κ)) (op : Op κ) :
    r.after (ops ++ [op]) = ((r.after ops).perform op).2 :=
  List.foldl_concat ..

/-- What operations answer, performed in order. -/
def answers : Registry κ → List (Op κ) → List (Answer κ)
  | _, [] => []
  | r, op :: rest => (r.perform op).1 :: answers (r.perform op).2 rest

end Registry

namespace Contents

open Registry (Op Answer)

variable {κ : Type}

/-- The identifiers mapped to a shape. -/
def idsFor (m : Contents κ) (shape : Shape) : Finset Ident :=
  m.keys.filter fun id => (m.lookup id).map Prod.fst = some shape

/-- An operation on a finite map: its answer, and the map after it. -/
def perform (m : Contents κ) : Op κ → Answer κ × Contents κ
  | .insert id shape call =>
    if id ∈ m then (.inserted (.error (.duplicateIdentifier id)), m)
    else (.inserted (.ok ()), m.insert id (shape, call))
  | .remove id => (.removed ((m.lookup id).map Prod.fst), m.erase id)
  | .get id => (.found (m.lookup id), m)
  | .contains id => (.truth (decide (id ∈ m)), m)
  | .idsFor shape => (.identifiers (m.idsFor shape).val, m)
  | .size => (.count m.keys.card, m)
  | .isEmpty => (.truth (decide (m.keys = ∅)), m)

/-- The finite map after operations, performed in order. -/
def after (m : Contents κ) (ops : List (Op κ)) : Contents κ :=
  ops.foldl (fun m op => (m.perform op).2) m

theorem after_concat (m : Contents κ) (ops : List (Op κ)) (op : Op κ) :
    m.after (ops ++ [op]) = ((m.after ops).perform op).2 :=
  List.foldl_concat ..

/-- What operations answer, performed in order. -/
def answers : Contents κ → List (Op κ) → List (Answer κ)
  | _, [] => []
  | m, op :: rest => (m.perform op).1 :: answers (m.perform op).2 rest

end Contents

namespace Registry

variable {κ : Type} {r : Registry κ} {m : Contents κ}

/-- A coherent registry that holds what a finite map does. -/
structure Holds (r : Registry κ) (m : Contents κ) : Prop where
  coherent : r.Coherent
  get?_eq : ∀ id, r.get? id = m.lookup id

theorem holds_empty : Holds ({} : Registry κ) ∅ where
  coherent := coherent_empty
  get?_eq _ := rfl

namespace Holds

variable {id : Ident} {shape : Shape} {call : κ}

theorem mem_iff (h : r.Holds m) : id ∈ m ↔ r.contains id = true := by
  rw [← Finmap.lookup_isSome, ← h.get?_eq, ← not_iff_not, Bool.not_eq_true, Bool.not_eq_true,
    Option.isSome_eq_false_iff, Option.isNone_iff_eq_none, h.coherent.get?_eq_none_iff]

theorem mem_keys_iff (h : r.Holds m) : id ∈ m.keys ↔ id ∈ r.index.map Prod.fst := by
  rw [Finmap.mem_keys, h.mem_iff, ← not_iff_not, ← slotOf?_eq_none_iff, ← contains_eq_false_iff,
    Bool.not_eq_true]

theorem mem_idsFor_iff (h : r.Holds m) :
    id ∈ r.idsFor shape ↔ ∃ call, m.lookup id = some (shape, call) := by
  rw [h.coherent.mem_idsFor_iff, ← h.get?_eq, get?]
  constructor
  · rintro ⟨e, he, rfl⟩
    exact ⟨e.call, by simp [he]⟩
  · rintro ⟨call, hc⟩
    obtain ⟨e, he, hsc⟩ := Option.map_eq_some_iff.mp hc
    exact ⟨e, he, congrArg Prod.fst hsc⟩

theorem idsFor_eq (h : r.Holds m) (shape : Shape) :
    (r.idsFor shape : Multiset Ident) = (m.idsFor shape).val := by
  have hnodup := h.coherent.nodup_idsFor shape
  refine (Multiset.Nodup.ext (Multiset.coe_nodup.mpr hnodup) (Finset.nodup _)).mpr fun id => ?_
  rw [Multiset.mem_coe, h.mem_idsFor_iff, Finset.mem_val, Contents.idsFor, Finset.mem_filter,
    Finmap.mem_keys, ← Finmap.lookup_isSome]
  cases hl : m.lookup id with
  | none => simp
  | some e => simp [Prod.ext_iff]

theorem size_eq (h : r.Holds m) : r.size = m.keys.card := by
  have hset : m.keys = (r.index.map Prod.fst).toFinset := by
    ext id
    rw [h.mem_keys_iff, List.mem_toFinset]
  rw [hset, List.toFinset_card_of_nodup h.coherent.index_nodup, List.length_map, size]

theorem isEmpty_eq (h : r.Holds m) : r.isEmpty = decide (m.keys = ∅) := by
  rw [Bool.eq_iff_iff, decide_eq_true_iff, isEmpty, List.isEmpty_iff_length_eq_zero,
    ← Finset.card_eq_zero, ← h.size_eq, size]

/-- A registration is refused exactly for an identifier that is mapped. -/
theorem insert_eq_error_iff (h : r.Holds m) {e : RegistryError} :
    r.insert id shape call = .error e ↔ id ∈ m ∧ e = .duplicateIdentifier id := by
  rw [h.mem_iff]
  cases hid : r.contains id with
  | true => simp [insert_of_contains hid, eq_comm]
  | false =>
    obtain ⟨r', hr, -⟩ := h.coherent.insert hid shape call
    simp [hr]

theorem insert (h : r.Holds m) (hid : id ∉ m) (shape : Shape) (call : κ) :
    ∃ r', r.insert id shape call = .ok r' ∧ r'.Holds (m.insert id (shape, call)) := by
  rw [h.mem_iff, Bool.not_eq_true] at hid
  obtain ⟨r', hr, hc, -⟩ := h.coherent.insert hid shape call
  refine ⟨r', hr, hc, fun other => ?_⟩
  rw [h.coherent.get?_insert hr]
  by_cases ho : other = id
  · subst ho
    rw [if_pos rfl, Finmap.lookup_insert]
  · rw [if_neg ho, Finmap.lookup_insert_of_ne m ho, h.get?_eq]

theorem remove (h : r.Holds m) (id : Ident) :
    (r.remove id).1 = (m.lookup id).map Prod.fst ∧ (r.remove id).2.Holds (m.erase id) := by
  obtain ⟨hs, hc, -⟩ := h.coherent.remove id
  refine ⟨?_, hc, fun other => ?_⟩
  · rw [hs, ← h.get?_eq, get?, Option.map_map]
    rfl
  · rw [h.coherent.get?_remove]
    by_cases ho : other = id
    · subst ho
      rw [if_pos rfl, Finmap.lookup_erase]
    · rw [if_neg ho, Finmap.lookup_erase_ne ho, h.get?_eq]

/-- The slot that an operation looks up lies in the arena. -/
theorem opened?_lt (h : r.Holds m) {op : Op κ} {n : Nat} (hn : r.opened? op = some n) :
    n < r.slots.size := by
  cases op with
  | insert id shape call =>
    rw [opened?, Option.ite_none_left_eq_some] at hn
    exact h.coherent.free_lt (List.mem_of_mem_head? hn.2)
  | remove id => exact h.coherent.slotOf?_lt hn
  | get id => exact h.coherent.slotOf?_lt hn
  | contains id => cases hn
  | idsFor shape => cases hn
  | size => cases hn
  | isEmpty => cases hn

/-- An operation answers the same on a registry and on the finite map that it holds, and keeps
them in step. -/
theorem perform (h : r.Holds m) (op : Op κ) :
    (r.perform op).1 = (m.perform op).1 ∧ (r.perform op).2.Holds (m.perform op).2 := by
  cases op with
  | insert id shape call =>
    by_cases hid : id ∈ m
    · have hr : r.insert id shape call = .error (.duplicateIdentifier id) :=
        h.insert_eq_error_iff.mpr ⟨hid, rfl⟩
      simp only [Registry.perform, Contents.perform, hr, if_pos hid]
      exact ⟨trivial, h⟩
    · obtain ⟨r', hr, h'⟩ := h.insert hid shape call
      simp only [Registry.perform, Contents.perform, hr, if_neg hid]
      exact ⟨trivial, h'⟩
  | remove id =>
    obtain ⟨hs, h'⟩ := h.remove id
    exact ⟨congrArg Answer.removed hs, h'⟩
  | get id => exact ⟨congrArg Answer.found (h.get?_eq id), h⟩
  | contains id =>
    refine ⟨congrArg Answer.truth ?_, h⟩
    rw [Bool.eq_iff_iff, ← h.mem_iff, decide_eq_true_iff]
  | idsFor shape => exact ⟨congrArg Answer.identifiers (h.idsFor_eq shape), h⟩
  | size => exact ⟨congrArg Answer.count h.size_eq, h⟩
  | isEmpty => exact ⟨congrArg Answer.truth h.isEmpty_eq, h⟩

theorem after (h : r.Holds m) (ops : List (Op κ)) : (r.after ops).Holds (m.after ops) := by
  induction ops generalizing r m with
  | nil => exact h
  | cons op rest ih => exact ih (h.perform op).2

theorem answers (h : r.Holds m) (ops : List (Op κ)) : r.answers ops = m.answers ops := by
  induction ops generalizing r m with
  | nil => rfl
  | cons op rest ih =>
    rw [Registry.answers, Contents.answers, (h.perform op).1, ih (h.perform op).2]

end Holds

/-- **A registry is a finite map.** Any operations from an empty registry on answer as they do on a
finite map. In the registry that they lead to every slot looked up lies in the arena, a
registration is refused exactly for a mapped identifier and then changes nothing, an identifier
has what was registered under it last, and each identifier is listed once, under its own shape and
no other. -/
theorem after_eq_contents (ops : List (Op κ)) :
    answers ({} : Registry κ) ops = Contents.answers ∅ ops ∧
      (∀ op n, (after {} ops).opened? op = some n → n < (after {} ops).slots.size) ∧
      (∀ id shape call e, (after {} ops).insert id shape call = .error e ↔
        id ∈ Contents.after ∅ ops ∧ e = .duplicateIdentifier id) ∧
      (∀ id shape call, id ∈ Contents.after ∅ ops →
        ((after {} ops).perform (.insert id shape call)).2 = after {} ops) ∧
      (∀ id, (after {} ops).get? id = (Contents.after ∅ ops).lookup id) ∧
      (∀ id, ((after {} ops).remove id).1 =
        ((Contents.after ∅ ops).lookup id).map Prod.fst) ∧
      (∀ shape, ((after {} ops).idsFor shape).Nodup) ∧
      (∀ id shape, id ∈ (after {} ops).idsFor shape ↔
        ∃ call, (Contents.after ∅ ops).lookup id = some (shape, call)) ∧
      ∀ id, id ∈ Contents.after ∅ ops ↔ ∃! shape, id ∈ (after {} ops).idsFor shape := by
  have h : (after ({} : Registry κ) ops).Holds (Contents.after ∅ ops) := holds_empty.after ops
  refine ⟨holds_empty.answers ops, fun op n => h.opened?_lt, fun id shape call e =>
    h.insert_eq_error_iff, ?_, h.get?_eq, fun id => (h.remove id).1, h.coherent.nodup_idsFor,
    fun id shape => h.mem_idsFor_iff, ?_⟩
  · intro id shape call hid
    simp only [perform, h.insert_eq_error_iff.mpr ⟨hid, rfl⟩]
  · intro id
    simp only [h.mem_idsFor_iff, Finmap.mem_iff]
    constructor
    · rintro ⟨⟨shape, call⟩, hl⟩
      refine ⟨shape, ⟨call, hl⟩, ?_⟩
      rintro shape' ⟨call', hl'⟩
      rw [hl, Option.some.injEq, Prod.mk.injEq] at hl'
      exact hl'.1.symm
    · rintro ⟨shape, ⟨call, hl⟩, -⟩
      exact ⟨(shape, call), hl⟩

end Registry

end ClosureBridge
