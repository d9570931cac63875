import ClosureBridge.Ident
import ClosureBridge.Text.Utf8

/-!
# Method descriptors

The interpreter keeps the address of a callable's descriptor for as long as the callable lives,
which may be longer than the host needs the descriptor. Descriptors are therefore never freed:
one that is given back waits in a pool and is overwritten when it is taken again.

## Main definitions

* `Descriptor`: one descriptor: a fixed name buffer, an entry point and flags.
* `DescriptorPool`: all descriptors ever made, and those that wait.
* `DescriptorPool.acquire`, `DescriptorPool.release`.

## Main statements

* `Descriptor.length_rename`: writing a name keeps the size of the buffer.
-/

namespace ClosureBridge

/-- Where a call of a callable goes. -/
inductive EntryPoint where
  /-- The router, which finds the closure by the callable's identifier. -/
  | router
  deriving DecidableEq, Repr

/-- A method descriptor. -/
structure Descriptor where
  /-- The name buffer; the name ends at the first zero. -/
  buffer : List UInt8
  /-- The entry point, once set. -/
  entry : Option EntryPoint
  /-- The calling convention. -/
  flags : Nat
  /-- The documentation, if any. -/
  doc : Option String
  deriving DecidableEq, Repr

namespace Descriptor

/-- The size of the name buffer, the closing zero included. -/
def capacity : Nat := 32

/-- The calling convention in which all arguments arrive in one tuple. -/
def tupleArguments : Nat := 1

/-- A descriptor just made. -/
def blank : Descriptor :=
  ⟨List.replicate capacity 0, none, 0, none⟩

/-- The name: the buffer up to the first zero. -/
def name (d : Descriptor) : String :=
  Utf8.decodeLossy (d.buffer.takeWhile fun b => b != 0)

/-- The octets of an identifier that fit into the buffer. -/
def stored (id : Ident) : List UInt8 :=
  id.text.toUTF8.toList.take (capacity - 1)

/-- Write a name over the start of the buffer, closed by a zero; the octets after it stay. -/
def rename (d : Descriptor) (id : Ident) : Descriptor :=
  let octets := stored id
  { d with buffer := octets ++ 0 :: d.buffer.drop (octets.length + 1) }

/-- Make a descriptor stand for an identifier. -/
def assign (d : Descriptor) (id : Ident) : Descriptor :=
  { d.rename id with entry := some .router, flags := tupleArguments, doc := none }

@[simp] theorem length_stored_le (id : Ident) : (stored id).length ≤ capacity - 1 :=
  List.length_take_le ..

@[simp] theorem entry_assign (d : Descriptor) (id : Ident) :
    (d.assign id).entry = some .router := rfl

theorem length_rename {d : Descriptor} (h : d.buffer.length = capacity) (id : Ident) :
    (d.rename id).buffer.length = capacity := by
  have hs := length_stored_le id
  simp only [rename, List.length_append, List.length_cons, List.length_drop, h, capacity] at hs ⊢
  omega

end Descriptor

/-- All descriptors ever made, by number, and the numbers of those that wait, the one given back
last first. -/
structure DescriptorPool where
  all : Array Descriptor := #[]
  waiting : List Nat := []

namespace DescriptorPool

/-- Take a descriptor that waits, or make one, and let it stand for an identifier. -/
def acquire (p : DescriptorPool) (id : Ident) : Nat × DescriptorPool :=
  match p.waiting with
  | n :: waiting => (n, ⟨p.all.modify n fun d => d.assign id, waiting⟩)
  | [] => (p.all.size, ⟨p.all.push (Descriptor.blank.assign id), []⟩)

/-- Give a descriptor back. -/
def release (p : DescriptorPool) (n : Nat) : DescriptorPool :=
  { p with waiting := n :: p.waiting }

/-- The number of descriptors that wait. -/
def pooled (p : DescriptorPool) : Nat :=
  p.waiting.length

/-- The name of a descriptor. -/
def name (p : DescriptorPool) (n : Nat) : String :=
  (p.all[n]?).elim "" Descriptor.name

end DescriptorPool

end ClosureBridge
