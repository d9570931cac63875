/-!
# Names bound to values

A finite map from names to values, kept as the list of its pairs in the order in which the names
were first bound.

## Main definitions

* `Bindings`: the map.
* `Bindings.get?`, `Bindings.insert`, `Bindings.erase`, `Bindings.size`.

## Main statements

* `Bindings.get?_insert_self`, `Bindings.get?_insert_of_ne`: what a binding changes.
* `Bindings.get?_erase_self`, `Bindings.get?_erase_of_ne`: what an unbinding changes.
-/

namespace ClosureBridge

/-- A finite map from names to values. -/
structure Bindings (α : Type) where
  /-- The pairs, each name at most once. -/
  entries : List (String × α) := []
  deriving DecidableEq

namespace Bindings

variable {α : Type}

instance : EmptyCollection (Bindings α) := ⟨⟨[]⟩⟩

/-- Bind a name in a list of pairs, in its old place or at the end. -/
def put (name : String) (a : α) : List (String × α) → List (String × α)
  | [] => [(name, a)]
  | (n, b) :: rest => if n = name then (name, a) :: rest else (n, b) :: put name a rest

/-- Take a name out of a list of pairs. -/
def drop (name : String) : List (String × α) → List (String × α)
  | [] => []
  | (n, b) :: rest => if n = name then drop name rest else (n, b) :: drop name rest

/-- The value in the first pair of a name. -/
def find? (name : String) : List (String × α) → Option α
  | [] => none
  | (n, b) :: rest => if n = name then some b else find? name rest

/-- The value that a name is bound to. -/
def get? (b : Bindings α) (name : String) : Option α :=
  find? name b.entries

/-- Bind a name, replacing what it was bound to. -/
def insert (b : Bindings α) (name : String) (a : α) : Bindings α :=
  ⟨put name a b.entries⟩

/-- Unbind a name. -/
def erase (b : Bindings α) (name : String) : Bindings α :=
  ⟨drop name b.entries⟩

/-- Whether a name is bound. -/
def contains (b : Bindings α) (name : String) : Bool :=
  (b.get? name).isSome

/-- The number of names bound. -/
def size (b : Bindings α) : Nat :=
  b.entries.length

/-- The names bound, in the order in which they were first bound. -/
def names (b : Bindings α) : List String :=
  b.entries.map (·.1)

/-- The bindings of names to values given pairwise, a later pair replacing an earlier one. -/
def ofList (pairs : List (String × α)) : Bindings α :=
  pairs.foldl (fun b e => b.insert e.1 e.2) ∅

@[simp] theorem get?_empty (name : String) : (∅ : Bindings α).get? name = none := rfl

@[simp] theorem find?_put_self (name : String) (a : α) (l : List (String × α)) :
    find? name (put name a l) = some a := by
  induction l with
  | nil => simp [put, find?]
  | cons e l ih =>
    obtain ⟨n, b⟩ := e
    by_cases h : n = name <;> simp [put, find?, h, ih]

theorem find?_put_of_ne {name other : String} (h : other ≠ name) (a : α)
    (l : List (String × α)) : find? other (put name a l) = find? other l := by
  induction l with
  | nil => simp [put, find?, Ne.symm h]
  | cons e l ih =>
    obtain ⟨n, b⟩ := e
    by_cases hn : n = name
    · subst hn
      simp [put, find?, Ne.symm h]
    · simp [put, find?, hn, ih]

/-- A name that is not bound is bound after all others. -/
theorem put_of_not_mem {name : String} {l : List (String × α)} (h : name ∉ l.map Prod.fst)
    (a : α) : put name a l = l ++ [(name, a)] := by
  induction l with
  | nil => rfl
  | cons e l ih =>
    rw [List.map_cons, List.mem_cons, not_or] at h
    rw [put, if_neg (Ne.symm h.1), ih h.2, List.cons_append]

theorem find?_of_not_mem {name : String} {l : List (String × α)} (h : name ∉ l.map Prod.fst) :
    find? name l = none := by
  induction l with
  | nil => rfl
  | cons e l ih =>
    rw [List.map_cons, List.mem_cons, not_or] at h
    rw [find?, if_neg (Ne.symm h.1), ih h.2]

@[simp] theorem get?_insert_self (b : Bindings α) (name : String) (a : α) :
    (b.insert name a).get? name = some a :=
  find?_put_self name a b.entries

theorem get?_insert_of_ne (b : Bindings α) {name other : String} (h : other ≠ name) (a : α) :
    (b.insert name a).get? other = b.get? other :=
  find?_put_of_ne h a b.entries

@[simp] theorem get?_erase_self (b : Bindings α) (name : String) :
    (b.erase name).get? name = none := by
  obtain ⟨l⟩ := b
  simp only [erase, get?]
  induction l with
  | nil => rfl
  | cons e l ih =>
    obtain ⟨n, a⟩ := e
    by_cases h : n = name <;> simp [drop, find?, h, ih]

theorem get?_erase_of_ne (b : Bindings α) {name other : String} (h : other ≠ name) :
    (b.erase name).get? other = b.get? other := by
  obtain ⟨l⟩ := b
  simp only [erase, get?]
  induction l with
  | nil => rfl
  | cons e l ih =>
    obtain ⟨n, a⟩ := e
    by_cases hn : n = name
    · subst hn
      simp [drop, find?, Ne.symm h, ih]
    · simp [drop, find?, hn, ih]

end Bindings

end ClosureBridge
