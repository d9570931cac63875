import ClosureBridge.Error

/-!
# The registry of exposed closures

An arena of slots with an index from identifiers to slots. A vacated slot goes on a free list and
is taken again before the arena grows, so a host that keeps exposing and releasing closures has a
bounded table.

## Main definitions

* `Registry`: the arena, the free list and the index.
* `Registry.insert`, `Registry.remove`, `Registry.get?`, `Registry.idsFor`.
-/

namespace ClosureBridge

/-- What a slot holds: a closure under an identifier and a shape. -/
structure RegistryEntry (κ : Type) where
  id : Ident
  shape : Shape
  call : κ

/-- A slot arena with an index. -/
structure Registry (κ : Type) where
  /-- The slots, a vacant one empty. -/
  slots : Array (Option (RegistryEntry κ)) := #[]
  /-- The vacant slots, the one vacated last first. -/
  free : List Nat := []
  /-- The slot of each registered identifier. -/
  index : List (Ident × Nat) := []

namespace Registry

variable {κ : Type}

/-- The slot of an identifier. -/
def slotOf? (r : Registry κ) (id : Ident) : Option Nat :=
  r.index.lookup id

/-- Whether an identifier is registered. -/
def contains (r : Registry κ) (id : Ident) : Bool :=
  (r.slotOf? id).isSome

/-- The number of registered identifiers. -/
def size (r : Registry κ) : Nat :=
  r.index.length

/-- Whether nothing is registered. -/
def isEmpty (r : Registry κ) : Bool :=
  r.index.isEmpty

/-- The index without an identifier. -/
def unindexed (r : Registry κ) (id : Ident) : List (Ident × Nat) :=
  r.index.filter fun e => !(e.1 == id)

/-- Register a closure under an identifier that is not registered yet, in the slot vacated last or
in a new one. -/
def insert (r : Registry κ) (id : Ident) (shape : Shape) (call : κ) :
    Except RegistryError (Registry κ) :=
  if r.contains id then .error (.duplicateIdentifier id)
  else
    let entry : RegistryEntry κ := ⟨id, shape, call⟩
    match r.free with
    | slot :: free =>
      .ok ⟨r.slots.setIfInBounds slot (some entry), free, (id, slot) :: r.index⟩
    | [] => .ok ⟨r.slots.push (some entry), [], (id, r.slots.size) :: r.index⟩

/-- The entry of an identifier. -/
def entry? (r : Registry κ) (id : Ident) : Option (RegistryEntry κ) :=
  (r.slotOf? id).bind fun slot => (r.slots[slot]?).join

/-- Take an identifier out, with the shape it had. -/
def remove (r : Registry κ) (id : Ident) : Option Shape × Registry κ :=
  match r.slotOf? id with
  | none => (none, r)
  | some slot =>
    let index := r.unindexed id
    match (r.slots[slot]?).join with
    | none => (none, { r with index })
    | some entry => (some entry.shape, ⟨r.slots.setIfInBounds slot none, slot :: r.free, index⟩)

/-- The shape and the closure of an identifier. -/
def get? (r : Registry κ) (id : Ident) : Option (Shape × κ) :=
  (r.entry? id).map fun e => (e.shape, e.call)

/-- The entries, in the order of their slots. -/
def entries (r : Registry κ) : List (RegistryEntry κ) :=
  r.slots.toList.filterMap id

/-- The identifiers registered under a shape, in the order of their slots. -/
def idsFor (r : Registry κ) (shape : Shape) : List Ident :=
  (r.entries.filter fun e => e.shape = shape).map (·.id)

theorem insert_of_contains {r : Registry κ} {id : Ident} (h : r.contains id = true)
    (shape : Shape) (call : κ) :
    r.insert id shape call = .error (.duplicateIdentifier id) := by
  simp [insert, h]

theorem remove_of_not_contains {r : Registry κ} {id : Ident} (h : r.contains id = false) :
    r.remove id = (none, r) := by
  unfold remove
  cases hs : r.slotOf? id with
  | none => rfl
  | some slot => simp [contains, hs] at h

end Registry

end ClosureBridge
