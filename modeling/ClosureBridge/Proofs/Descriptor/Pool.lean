import ClosureBridge.Descriptor
import ClosureBridge.Proofs.Text.Utf8
import Mathlib.Data.List.Nodup
import Mathlib.Data.List.Range

/-!
# Who has which descriptor

The descriptors that wait and those that are held make up all descriptors, each once. Taking one
and giving one back keep that, so as many are made as were ever held at the same time. The name of
a descriptor that is held stays what it was written to be, whatever is taken or given back.

## Main definitions

* `Descriptor.octets`: the octets of a name, which a zero ends.
* `DescriptorPool.Shared`: all descriptors wait or are held, each once.

## Main statements

* `Descriptor.zero_not_mem_stored`: the octets written for an identifier without a NUL have no zero
  among them.
* `Descriptor.octets_assign`: the name of a descriptor that has just been taken.
* `DescriptorPool.Shared.acquire`, `DescriptorPool.Shared.release`: the parts after a descriptor has
  been taken or given back.
* `DescriptorPool.Shared.size_acquire`: how many descriptors there are then.
* `DescriptorPool.Shared.getElem?_acquire`: taking one leaves those alone that are held.
-/

namespace ClosureBridge

/-! ### Names -/

namespace Descriptor

/-- The octets of the name: the buffer up to the first zero. -/
def octets (d : Descriptor) : List UInt8 :=
  d.buffer.takeWhile fun b => b != 0

theorem zero_not_mem_stored {id : Ident} (h : '\x00' ∉ id.text.toList) : 0 ∉ stored id := by
  intro hmem
  have hmem' : 0 ∈ id.text.toUTF8.toList := List.mem_of_mem_take hmem
  rw [Utf8.toList_toUTF8, List.mem_flatMap] at hmem'
  obtain ⟨c, hc, hzero⟩ := hmem'
  rw [Utf8.eq_nul_of_zero_mem hzero] at hc
  exact h hc

/-- Whatever was in the buffer, its name is then what was stored of the identifier. -/
theorem octets_assign (d : Descriptor) {id : Ident} (h : '\x00' ∉ id.text.toList) :
    (d.assign id).octets = stored id := by
  have hstored : ∀ b ∈ stored id, (b != 0) = true := by
    intro b hb
    rw [bne_iff_ne]
    rintro rfl
    exact zero_not_mem_stored h hb
  change (stored id ++ 0 :: _).takeWhile _ = _
  rw [List.takeWhile_append_of_pos hstored, List.takeWhile_cons_of_neg (by simp),
    List.append_nil]

end Descriptor

/-! ### The pool and the holders -/

namespace DescriptorPool

variable {p : DescriptorPool} {held held' : List Nat} {id : Ident} {d : Nat}

/-- The descriptors that wait and those that are held make up all descriptors, each once. -/
def Shared (p : DescriptorPool) (held : List Nat) : Prop :=
  (p.waiting ++ held).Perm (List.range p.all.size)

theorem shared_empty : Shared {} [] :=
  List.Perm.refl _

theorem acquire_of_waiting {waiting : List Nat} (h : p.waiting = d :: waiting) :
    p.acquire id = (d, ⟨p.all.modify d fun old => old.assign id, waiting⟩) := by
  rw [acquire, h]

theorem acquire_of_none_waiting (h : p.waiting = []) :
    p.acquire id = (p.all.size, ⟨p.all.push (Descriptor.blank.assign id), []⟩) := by
  rw [acquire, h]

/-- The descriptor that is taken stands for the identifier then. -/
theorem exists_getElem?_acquire (h : ∀ n ∈ p.waiting, n < p.all.size) (id : Ident) :
    ∃ d : Descriptor, (p.acquire id).2.all[(p.acquire id).1]? = some (d.assign id) := by
  cases hw : p.waiting with
  | nil =>
    rw [acquire_of_none_waiting hw]
    exact ⟨_, Array.getElem?_push_size⟩
  | cons n waiting =>
    have hn : n < p.all.size := h n (by rw [hw]; exact List.mem_cons_self)
    rw [acquire_of_waiting hw, Array.getElem?_modify, if_pos rfl, Array.getElem?_eq_getElem hn]
    exact ⟨_, rfl⟩

namespace Shared

theorem nodup (h : p.Shared held) : (p.waiting ++ held).Nodup :=
  h.nodup_iff.mpr List.nodup_range

theorem mem_iff (h : p.Shared held) : d ∈ p.waiting ∨ d ∈ held ↔ d < p.all.size := by
  rw [← List.mem_append, List.Perm.mem_iff h, List.mem_range]

theorem size_eq (h : p.Shared held) : p.all.size = p.waiting.length + held.length := by
  rw [← List.length_append, h.length_eq, List.length_range]

/-- The descriptor that is taken is held after that. -/
theorem acquire (h : p.Shared held) (id : Ident) :
    (p.acquire id).2.Shared ((p.acquire id).1 :: held) := by
  unfold Shared at h ⊢
  cases hw : p.waiting with
  | nil =>
    rw [hw, List.nil_append] at h
    rw [acquire_of_none_waiting hw, Array.size_push, List.range_succ]
    exact (List.perm_append_singleton _ _).symm.trans (h.append_right _)
  | cons n waiting =>
    rw [hw] at h
    rw [acquire_of_waiting hw, Array.size_modify]
    exact List.perm_middle.trans h

/-- A descriptor that is given back waits after that. -/
theorem release (h : p.Shared held) (hd : held.Perm (d :: held')) : (p.release d).Shared held' := by
  have hmove : (d :: p.waiting ++ held').Perm (p.waiting ++ d :: held') := List.perm_middle.symm
  exact hmove.trans ((hd.symm.append_left _).trans h)

/-- One more descriptor is made only when all that there are are held. -/
theorem size_acquire (h : p.Shared held) (id : Ident) :
    (p.acquire id).2.all.size = max p.all.size (held.length + 1) := by
  have hsize := h.size_eq
  cases hw : p.waiting with
  | nil =>
    rw [hw, List.length_nil] at hsize
    rw [acquire_of_none_waiting hw, Array.size_push]
    omega
  | cons n waiting =>
    rw [hw, List.length_cons] at hsize
    rw [acquire_of_waiting hw, Array.size_modify]
    omega

/-- The descriptor that is taken was not held. -/
theorem acquire_not_mem (h : p.Shared held) (id : Ident) : (p.acquire id).1 ∉ held :=
  (List.nodup_cons.mp (List.nodup_append.mp (h.acquire id).nodup).2.1).1

/-- Taking a descriptor leaves those alone that are held. -/
theorem getElem?_acquire (h : p.Shared held) (id : Ident) (hd : d ∈ held) :
    (p.acquire id).2.all[d]? = p.all[d]? := by
  have hlt : d < p.all.size := h.mem_iff.mp (.inr hd)
  have hne : (p.acquire id).1 ≠ d := fun he => h.acquire_not_mem id (he ▸ hd)
  cases hw : p.waiting with
  | nil =>
    rw [acquire_of_none_waiting hw, Array.getElem?_push, if_neg (Nat.ne_of_lt hlt)]
  | cons n waiting =>
    rw [acquire_of_waiting hw] at hne ⊢
    rw [Array.getElem?_modify, if_neg hne]

end Shared

end DescriptorPool

end ClosureBridge
