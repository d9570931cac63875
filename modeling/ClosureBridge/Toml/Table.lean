import ClosureBridge.Toml.Basic

/-!
# Tables that grow

Every line of a document changes one table, which the names before it lead to. Tables that are
missing on the way are made; which of those that exist may be entered depends on whether a header
or a dotted key leads the way.

## Main definitions

* `Key`: the names before a table or a value and its own name.
* `Table.alter`: change the table at the end of a way.
* `Table.assign`: give a key a value.
* `Table.begin`, `Table.beginNext`: begin the table of a header.

## Main statements

* `Table.get?_set_self`, `Table.get?_set_of_ne`: what setting an entry changes.
* `Table.assign_of_mem`: a name is given one value only.
-/

namespace ClosureBridge.Toml

/-- The names that lead to a table, and the name of an entry in it. -/
structure Key where
  parents : List String
  name : String
  deriving DecidableEq, Repr

/-- All names of a key. -/
def Key.path (k : Key) : List String :=
  k.parents ++ [k.name]

/-- What leads the way to a table. -/
inductive Guide where
  | header
  | dotted
  deriving DecidableEq, Repr

namespace Guide

/-- How a table comes to be that is made on the way. -/
def origin : Guide → Origin
  | header => .implied
  | dotted => .dotted

/-- Whether a table may be entered. A dotted key adds nothing to what a header has begun. -/
def enters : Guide → Origin → Bool
  | header, _ => true
  | dotted, origin => origin != .header

end Guide

namespace Table

/-- The entry with a name. -/
def get? (t : Table Value) (name : String) : Option Value :=
  t.entries.get? name

/-- A table with one entry set. -/
def set (t : Table Value) (name : String) (v : Value) : Table Value :=
  { t with entries := t.entries.insert name v }

@[simp] theorem origin_set (t : Table Value) (name : String) (v : Value) :
    (t.set name v).origin = t.origin := rfl

@[simp] theorem get?_set_self (t : Table Value) (name : String) (v : Value) :
    (t.set name v).get? name = some v :=
  t.entries.get?_insert_self name v

theorem get?_set_of_ne (t : Table Value) {name other : String} (h : other ≠ name) (v : Value) :
    (t.set name v).get? other = t.get? other :=
  t.entries.get?_insert_of_ne h v

/-- Change the table at the end of a way. -/
def alter (guide : Guide) (change : Table Value → Option (Table Value)) :
    List String → Table Value → Option (Table Value)
  | [], t => change t
  | name :: path, t =>
    match t.get? name with
    | none =>
      (alter guide change path { origin := guide.origin }).map fun u => t.set name (.table u)
    | some (.table u) =>
      if guide.enters u.origin then
        (alter guide change path u).map fun u => t.set name (.table u)
      else none
    | some (.tables newest older) =>
      (alter guide change path newest).map fun u => t.set name (.tables u older)
    | some _ => none

/-- Give a name a value that it does not have yet. -/
def put (name : String) (v : Value) (t : Table Value) : Option (Table Value) :=
  if (t.get? name).isSome then none else some (t.set name v)

/-- Give a key its value. What dotted keys have made takes values from dotted keys only, and all
else from plain ones only. -/
def assign (key : Key) (v : Value) (t : Table Value) : Option (Table Value) :=
  alter .dotted
    (fun u => if (u.origin == .dotted) = !key.parents.isEmpty then put key.name v u else none)
    key.parents t

/-- Begin the table of a header: a new one, or one that so far was only on the way. -/
def begin (key : Key) (t : Table Value) : Option (Table Value) :=
  alter .header
    (fun u =>
      match u.get? key.name with
      | none => some (u.set key.name (.table {}))
      | some (.table v) =>
        if v.origin = .implied then some (u.set key.name (.table { v with origin := .header }))
        else none
      | some _ => none)
    key.parents t

/-- Begin the next of the tables that share a header. -/
def beginNext (key : Key) (t : Table Value) : Option (Table Value) :=
  alter .header
    (fun u =>
      match u.get? key.name with
      | none => some (u.set key.name (.tables {} []))
      | some (.tables newest older) => some (u.set key.name (.tables {} (newest :: older)))
      | some _ => none)
    key.parents t

/-- The entries that pairs of keys and values make up. -/
def ofPairs? (pairs : List (Key × Value)) : Option (Bindings Value) :=
  (pairs.foldlM (fun t (key, v) => assign key v t) ({} : Table Value)).map Table.entries

theorem assign_of_mem {t : Table Value} {name : String} (v : Value)
    (h : (t.get? name).isSome = true) : assign ⟨[], name⟩ v t = none := by
  simp [assign, alter, put, h]

end Table

end ClosureBridge.Toml
