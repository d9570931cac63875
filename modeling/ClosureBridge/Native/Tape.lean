import ClosureBridge.Interpreter
import ClosureBridge.Text.Utf8

/-!
# A native interface played from a tape

An interpreter of its own can stand behind the native interface. Here the functions of the
interface answer from a tape: each takes its next answer from a list of replies, and has a default
when that is used up. The calls are recorded in order.

## Main definitions

* `Slot`, `Reply`: what a function answers.
* `Tape`: the replies that are left, and the calls so far.
* `Tape.pointer`, `Tape.optionalPointer`, `Tape.status`, `Tape.octets`, `Tape.unpacked`: call a
  function with one kind of answer.
-/

namespace ClosureBridge.Native

/-- What is stored through a pointer to a result. -/
inductive Slot where
  | text (s : String)
  | octets (b : List UInt8)
  | token (n : Nat)
  | null

/-- An answer. -/
inductive Reply where
  /-- A status, or a pointer with zero for none. -/
  | number (n : Int)
  /-- Octets, or none. -/
  | octets (b : Option (List UInt8))
  /-- A status and what is stored. -/
  | unpacked (status : Int) (slots : List Slot)

/-- The replies that are left, and the calls so far. -/
structure Tape where
  replies : Bindings (List Reply) := ∅
  /-- The calls, the last one first. -/
  calls : List Json := []
  /-- The next pointer that is given out for want of a reply. -/
  fresh : Nat := 101

namespace Tape

/-- Record a call. -/
def record (function : String) (args : List Json) : Quiet Tape Unit :=
  modify fun t => { t with calls := .list (.text function :: args) :: t.calls }

/-- Take the next reply of a function. -/
def next? (function : String) : Quiet Tape (Option Reply) :=
  modifyGet fun t =>
    match t.replies.get? function with
    | some (r :: rest) => (some r, { t with replies := t.replies.insert function rest })
    | _ => (none, t)

/-- A pointer that has not been given out. -/
def freshPointer : Quiet Tape (Option Ref) :=
  modifyGet fun t => (some t.fresh, { t with fresh := t.fresh + 1 })

/-- A number as a pointer: zero is none. -/
def toPointer (n : Int) : Option Ref :=
  if n = 0 then none else some n.toNat

/-- A pointer in the record of a call. -/
def pointerJson (r : Option Ref) : Json :=
  Json.optional Json.count r

/-- Call a function that gives a pointer, by default a fresh one. -/
def pointer (function : String) (args : List Json) : Quiet Tape (Option Ref) := do
  record function args
  match ← next? function with
  | some (.number n) => return toPointer n
  | _ => freshPointer

/-- Call a function that gives a pointer, by default none. -/
def optionalPointer (function : String) (args : List Json) : Quiet Tape (Option Ref) := do
  record function args
  match ← next? function with
  | some (.number n) => return toPointer n
  | _ => return none

/-- Call a function that gives a status, by default zero. -/
def status (function : String) (args : List Json) : Quiet Tape Int := do
  record function args
  match ← next? function with
  | some (.number n) => return n
  | _ => return 0

/-- Call a function that gives octets, by default none. -/
def octets (function : String) (args : List Json) : Quiet Tape (Option (List UInt8)) := do
  record function args
  match ← next? function with
  | some (.octets b) => return b
  | _ => return none

/-- Call a function that unpacks: what it stored, unless its status is zero. -/
def unpacked (function : String) (args : List Json) : Quiet Tape (Option (List Slot)) := do
  record function args
  match ← next? function with
  | some (.unpacked status slots) => return if status = 0 then none else some slots
  | _ => return none

/-- The calls recorded since they were last taken, in order. -/
def takeCalls (t : Tape) : List Json × Tape :=
  (t.calls.reverse, { t with calls := [] })

end Tape

end ClosureBridge.Native
