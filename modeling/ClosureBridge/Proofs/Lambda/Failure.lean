import ClosureBridge.Proofs.Descriptor.Pool
import ClosureBridge.Proofs.Lambda.Freshness

/-!
# Exposing a closure that fails

A closure is registered and gets a descriptor before its callable is built, so a failure comes after
some of the stages have been taken. Each of them is taken back: the slot of the registry becomes
vacant again, and the descriptor waits in the pool. What is registered, and which descriptors are
out, is then as before.

## Main definitions

* `DescriptorPool.out`: the descriptors that do not wait.
* `DescriptorPool.Restored`: a pool in which the same descriptors are out as in another.
* `Lambda.Undone`: a state in which nothing has come of a request.
* `Lambda.Way`: the ways to expose a closure.

## Main statements

* `Registry.Coherent.remove_insert`: a registration that is taken back leaves at most a vacant slot.
* `DescriptorPool.restored_release_acquire`: a descriptor that is given back at once is out no more.
* `Lambda.undone_of_error`: nothing comes of a request that fails.
-/

namespace ClosureBridge

namespace Registry

variable {κ : Type} {r r' : Registry κ} {id : Ident} {shape : Shape} {call : κ}

/-- An identifier that has just been indexed is taken out of the index again. -/
theorem unindexed_cons (h : r.contains id = false) (slots : Array (Option (RegistryEntry κ)))
    (free : List Nat) (slot : Nat) :
    unindexed ⟨slots, free, (id, slot) :: r.index⟩ id = r.index := by
  have hid : id ∉ r.index.map Prod.fst := slotOf?_eq_none_iff.mp (contains_eq_false_iff.mp h)
  rw [unindexed, List.filter_cons_of_neg (by simp), List.filter_eq_self]
  intro e he
  rw [Bool.not_eq_true', beq_eq_false_iff_ne]
  rintro rfl
  exact hid (List.mem_map_of_mem he)

/-- A registration that is taken back leaves the registry as it was, but for a slot at the end of
the arena where no slot was vacant. -/
theorem Coherent.remove_insert (h : r.Coherent) (hr : r.insert id shape call = .ok r') :
    (r'.remove id).2 = r ∨ (r'.remove id).2 = ⟨r.slots.push none, [r.slots.size], r.index⟩ := by
  have hid : r.contains id = false := (h.of_insert hr).1
  rw [Registry.insert, if_neg (by simp [hid])] at hr
  cases hfree : r.free with
  | nil =>
    rw [hfree, Except.ok.injEq] at hr
    subst hr
    refine .inr ?_
    have hslot : (r.slots.push (some ⟨id, shape, call⟩))[r.slots.size]? =
        some (some ⟨id, shape, call⟩) := Array.getElem?_push_size
    simp only [Registry.remove, slotOf?, List.lookup_cons_self, hslot, Option.join_some,
      unindexed_cons hid]
    congr 1
    simp [Array.setIfInBounds, Array.set_push]
  | cons slot free =>
    rw [hfree, Except.ok.injEq] at hr
    subst hr
    refine .inl ?_
    have hvacant : r.slots[slot]? = some none := h.mem_free.mp (by simp [hfree])
    have hlt : slot < r.slots.size := (Array.getElem?_eq_some_iff.mp hvacant).1
    have hslot : (r.slots.setIfInBounds slot (some ⟨id, shape, call⟩))[slot]? =
        some (some ⟨id, shape, call⟩) := Array.getElem?_setIfInBounds_self_of_lt hlt
    have hslots : (r.slots.setIfInBounds slot (some ⟨id, shape, call⟩)).setIfInBounds slot none =
        r.slots := by
      refine Array.ext_getElem? fun n => ?_
      by_cases hn : slot = n
      · subst hn
        rw [Array.getElem?_setIfInBounds_self_of_lt (by simpa using hlt), hvacant]
      · rw [Array.getElem?_setIfInBounds_ne hn, Array.getElem?_setIfInBounds_ne hn]
    simp only [Registry.remove, slotOf?, List.lookup_cons_self, hslot, Option.join_some,
      unindexed_cons hid, hslots]
    rw [← hfree]

/-- So it leaves the entries in their order. -/
theorem Coherent.entries_remove_insert (h : r.Coherent) (hr : r.insert id shape call = .ok r') :
    (r'.remove id).2.entries = r.entries := by
  rcases h.remove_insert hr with he | he
  · rw [he]
  · rw [he, entries, Array.toList_push, List.filterMap_append]
    exact List.append_nil _

end Registry

namespace DescriptorPool

/-- The descriptors that are out: those made that do not wait. -/
def out (p : DescriptorPool) : List Nat :=
  (List.range p.all.size).filter fun n => n ∉ p.waiting

theorem mem_out {p : DescriptorPool} {n : Nat} : n ∈ p.out ↔ n < p.all.size ∧ n ∉ p.waiting := by
  simp [out]

/-- The descriptors that are out in a pool are those that are out in another, and stand for the
same; those that wait there wait. -/
structure Restored (p q : DescriptorPool) : Prop where
  out : q.out = p.out
  waiting : p.waiting <:+ q.waiting
  all : ∀ n ∈ p.out, q.all[n]? = p.all[n]?

theorem restored_refl (p : DescriptorPool) : Restored p p :=
  ⟨rfl, List.suffix_refl _, fun _ _ => rfl⟩

/-- A descriptor that is taken and given back is out no more. -/
theorem restored_release_acquire (p : DescriptorPool) (id : Ident) :
    Restored p ((p.acquire id).2.release (p.acquire id).1) := by
  cases hw : p.waiting with
  | nil =>
    rw [acquire_of_none_waiting hw]
    refine ⟨?_, by simp [hw], fun n hn => ?_⟩
    · have hnew : List.filter (fun n => n ∉ [p.all.size]) (List.range p.all.size) =
          List.filter (fun n => n ∉ p.waiting) (List.range p.all.size) := by
        refine List.filter_congr fun n hn => ?_
        simp [hw, Nat.ne_of_lt (List.mem_range.mp hn)]
      rw [out, out, release, Array.size_push, List.range_succ, List.filter_append, hw, hnew]
      simp [hw]
    · rw [release, Array.getElem?_push, if_neg (Nat.ne_of_lt (mem_out.mp hn).1)]
  | cons m waiting =>
    rw [acquire_of_waiting hw]
    refine ⟨?_, by simp [release, hw], fun n hn => ?_⟩
    · rw [out, out, release, Array.size_modify, hw]
    · have hne : m ≠ n := by
        rintro rfl
        exact (mem_out.mp hn).2 (by simp [hw])
      rw [release, Array.getElem?_modify, if_neg hne]

end DescriptorPool

namespace Lambda

variable {ι : Type} {machine : MachineId → Interpreter ι} {m : MachineId} {id : Ident}
  {shape : Shape} {call : Closure} {w v : World ι}

/-- A state in which nothing has come of a request that was made in another: what is registered, and
which descriptors are out, is as before, and so is everything else but the number of identifiers
drawn and what the interpreters keep. -/
structure Undone (w v : World ι) : Prop where
  get? : ∀ id, v.registry.get? id = w.registry.get? id
  idsFor : ∀ shape, v.registry.idsFor shape = w.registry.idsFor shape
  coherent : v.registry.Coherent
  descriptors : w.descriptors.Restored v.descriptors
  others : v = { w with
    registry := v.registry
    descriptors := v.descriptors
    lambdaIds := v.lambdaIds
    outside := v.outside }

/-- Identifiers may be drawn and interpreters may go on. -/
theorem undone_elsewhere (h : w.registry.Coherent) (ids : IdentSource) (o : ι) :
    Undone w { w with lambdaIds := ids, outside := o } :=
  ⟨fun _ => rfl, fun _ => rfl, h, w.descriptors.restored_refl, rfl⟩

/-- An identifier may be drawn before. -/
theorem Undone.of_drawn {ids : IdentSource} (h : Undone { w with lambdaIds := ids } v) :
    Undone w v :=
  ⟨h.get?, h.idsFor, h.coherent, h.descriptors, h.others⟩

/-- An exposure that ends with an error has been undone. -/
theorem Created.undone (h : w.registry.Coherent) {e : LambdaError}
    (hv : Created m id shape call w (.error e) v) : Undone w v := by
  cases hv with
  | unnamed o _ => exact undone_elsewhere h w.lambdaIds o
  | refused o _ => exact undone_elsewhere h w.lambdaIds o
  | abandoned o hr =>
    refine ⟨Session.get?_remove_insert h hr, fun s => ?_, ((h.of_insert hr).2.1.remove id).2.1,
      w.descriptors.restored_release_acquire id, rfl⟩
    rw [Registry.idsFor, Registry.idsFor, h.entries_remove_insert hr]

/-- What is registered is owned as before. -/
theorem Undone.maps (h : Undone w v) (hw : w.registry.Maps w.lambdas) :
    v.registry.Maps v.lambdas := by
  have hl : v.lambdas = w.lambdas := by rw [h.others]
  rw [hl]
  exact hw.of_get? h.get?

/-- A way to expose a closure. -/
inductive Way where
  /-- In a given interpreter, under a given identifier. -/
  | inMachine (m : MachineId) (id : Ident)
  /-- In the interpreter that is bound, under a fresh identifier. -/
  | fresh
  /-- In the interpreter that is bound, under an identifier chosen by the host. -/
  | chosen (text : String)
  /-- As a closure that tells its shape only at run time. -/
  | untyped

/-- Expose a closure. -/
def Way.perform (machine : MachineId → Interpreter ι) (shape : Shape) (call : Closure) :
    Way → Exec (World ι) (Except LambdaError Nat)
  | .inMachine m id => create machine m id shape call
  | .fresh => expose machine shape call
  | .chosen text => exposeAs machine text shape call
  | .untyped => exposeUntyped machine shape call

/-- A request returns, and nothing has come of it when it returns an error. -/
def Settled (w : World ι) (request : Exec (World ι) (Except LambdaError Nat)) : Prop :=
  ∃ r v, request.run w = (.ok r, v) ∧ ∀ e, r = .error e → Undone w v

theorem settled_error (h : w.registry.Coherent) (e : LambdaError) :
    Settled w (return .error e) :=
  ⟨_, w, rfl, fun _ _ => undone_elsewhere h w.lambdaIds w.outside⟩

theorem settled_create (machine : MachineId → Interpreter ι) (m : MachineId) (id : Ident)
    (shape : Shape) (call : Closure) (h : w.registry.Coherent) :
    Settled w (create machine m id shape call) := by
  obtain ⟨r, v, hrun, hv⟩ := created_create machine m id shape call w
  refine ⟨r, v, hrun, ?_⟩
  rintro e rfl
  exact hv.undone h

theorem settled_expose (machine : MachineId → Interpreter ι) (shape : Shape) (call : Closure)
    (h : w.registry.Coherent) : Settled w (expose machine shape call) := by
  cases hb : w.bound with
  | none =>
    exact ⟨_, w, run_expose_of_unbound machine hb shape call,
      fun _ _ => undone_elsewhere h w.lambdaIds w.outside⟩
  | some m =>
    obtain ⟨r, v, hrun, hv⟩ := settled_create (w := { w with lambdaIds := w.lambdaIds.next.2 })
      machine m w.lambdaIds.next.1 shape call h
    exact ⟨r, v, (run_expose_of_bound machine hb shape call).trans hrun,
      fun e he => (hv e he).of_drawn⟩

theorem settled_exposeAs (machine : MachineId → Interpreter ι) (text : String) (shape : Shape)
    (call : Closure) (h : w.registry.Coherent) : Settled w (exposeAs machine text shape call) := by
  unfold exposeAs
  cases Ident.ofText? text with
  | none => exact settled_error h _
  | some id =>
    dsimp only
    rw [Dispatch.current, bind_assoc, Settled, Exec.run_get_bind]
    cases w.bound with
    | none => exact settled_error h _
    | some m => exact settled_create machine m id shape call h

theorem settled_exposeUntyped (machine : MachineId → Interpreter ι) (shape : Shape)
    (call : Closure) (h : w.registry.Coherent) :
    Settled w (exposeUntyped machine shape call) := by
  unfold exposeUntyped
  split
  · exact settled_expose machine shape call h
  · exact settled_error h _

/-- **Nothing comes of an exposure that fails.** In whatever way a closure is exposed, over any
interpreters, the request returns. When it returns an error, every identifier is registered with the
same shape and closure as before, or is not, the identifiers are listed under each shape as before,
and the same descriptors are out, so that any that was taken waits in the pool; and where every
registered identifier was that of an unreleased lambda, it still is. -/
theorem undone_of_error (machine : MachineId → Interpreter ι) (way : Way) (shape : Shape)
    (call : Closure) (h : w.registry.Coherent) :
    ∃ r v, (way.perform machine shape call).run w = (.ok r, v) ∧ ∀ e, r = .error e →
      (∀ id, v.registry.get? id = w.registry.get? id) ∧
      (∀ shape, v.registry.idsFor shape = w.registry.idsFor shape) ∧
      v.registry.Coherent ∧
      w.descriptors.Restored v.descriptors ∧
      v.lambdas = w.lambdas ∧
      (w.registry.Maps w.lambdas → v.registry.Maps v.lambdas) := by
  have hway : Settled w (way.perform machine shape call) := by
    cases way with
    | inMachine m id => exact settled_create machine m id shape call h
    | fresh => exact settled_expose machine shape call h
    | chosen text => exact settled_exposeAs machine text shape call h
    | untyped => exact settled_exposeUntyped machine shape call h
  obtain ⟨r, v, hrun, hv⟩ := hway
  refine ⟨r, v, hrun, fun e he => ?_⟩
  have hundone := hv e he
  exact ⟨hundone.get?, hundone.idsFor, hundone.coherent, hundone.descriptors,
    by rw [hundone.others], hundone.maps⟩

/-- An image that builds two callables and no third one is bound; both closures have been exposed,
and the first one has been released. -/
def refusing : Session :=
  let tape := Trial.freshTape
    ⟨[("PyCFunction_NewEx", [.number 201, .number 202, .number 0])]⟩
  let bound := { tape with bound := some (.native 0 true) }
  let both := ((expose (Recursion.level 0).machine ⟨.object, .text⟩ Closure.kindName).run
    ((expose (Recursion.level 0).machine ⟨.object, .object⟩ Closure.echo).run bound).2).2
  ((release (Recursion.level 0).machine 0).run both).2

theorem history_refusing : History (Recursion.level 0).machine 2 [] refusing :=
  (((History.start (w := { Trial.freshTape
    ⟨[("PyCFunction_NewEx", [.number 201, .number 202, .number 0])]⟩ with
      bound := some (.native 0 true) }) rfl rfl rfl).expose ⟨.object, .object⟩ Closure.echo).expose
        ⟨.object, .text⟩ Closure.kindName).release 0

/-- The third closure takes the vacant slot and the descriptor that waits, and gives both back. -/
theorem undone_of_error_refusing :
    ∃ v, (expose (Recursion.level 0).machine ⟨.object, .object⟩ Closure.echo).run refusing =
        (.ok (.error (.callableConstruction ⟨"lmb2"⟩)), v) ∧
      refusing.registry.free = [0] ∧ refusing.descriptors.waiting = [0] ∧
      v.registry.get? ⟨"lmb2"⟩ = none ∧
      (v.registry.get? ⟨"lmb1"⟩).map Prod.fst = some ⟨.object, .text⟩ ∧
      v.registry.idsFor ⟨.object, .object⟩ = [] ∧
      v.descriptors.out = [1] ∧ v.registry.Maps v.lambdas := by
  obtain ⟨r, v, hrun, hv⟩ := undone_of_error (Recursion.level 0).machine .fresh ⟨.object, .object⟩
    Closure.echo history_refusing.named.coherent
  have hr : r = .error (.callableConstruction ⟨"lmb2"⟩) := by
    have hfst : ((expose (Recursion.level 0).machine ⟨.object, .object⟩ Closure.echo).run
        refusing).1 = .ok (.error (.callableConstruction ⟨"lmb2"⟩)) := rfl
    exact Except.ok.inj ((congrArg Prod.fst hrun).symm.trans hfst)
  obtain ⟨hget, hids, -, hpool, -, hmaps⟩ := hv _ hr
  refine ⟨v, hr ▸ hrun, rfl, rfl, (hget _).trans rfl, ?_, (hids _).trans (by decide),
    hpool.out.trans (by decide), hmaps history_refusing.named.maps⟩
  rw [hget]
  rfl

end Lambda

end ClosureBridge
