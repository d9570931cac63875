import ClosureBridge.Proofs.Dispatch.Router
import ClosureBridge.Proofs.Lambda.Invariant

/-!
# Calling the callable of a lambda

An interpreter that calls the callable of a wired lambda makes a tuple of the arguments and enters
the router with the text of the lambda's identifier, whether or not the lambda has been released.
What is found then is what is registered under the identifier at that moment.

## Main definitions

* `Session.missing`: the state after a call for which nothing is registered.

## Main statements

* `Session.Tidy.run_call`: a call of the callable of a lambda enters the router.
* `Session.Tidy.call_served`: it is served with the closure of the unreleased lambda that has the
  identifier.
* `Session.Tidy.call_missed`: without one it is missed.
-/

namespace ClosureBridge

namespace Script

/-- A call of a callable of the host enters the router with its object and a tuple of the
arguments. -/
theorem run_invoke {enter : Option Ref → Option Ref → Exec Session (Option Ref)}
    {call : Caller Bench} {m d : Nat} {callable : Ref} {self : Option Ref}
    {args : List (Option Ref)} {w : Session}
    (ho : w.outside.store.heap.get (some callable) = .callable d self)
    (hd : (w.descriptors.all[d]?).bind Descriptor.entry = some .router) :
    (invoke enter call m (some callable) args).run.run w =
      (Eval.ofExec (enter self (some w.outside.store.heap.objects.size)) >>=
        receive m).run.run (w.making (.tuple args)) := by
  have ho' : (ReaderT.run (Store.object (some callable)) w.descriptors w.outside).1 =
    .callable d self := ho
  unfold invoke
  rw [Eval.run_quiet_bind, ho']
  dsimp only
  unfold invoke.readDescriptors
  rw [Eval.run_quiet_bind]
  split
  · next hnone => cases hd.symm.trans hnone
  · rfl

end Script

namespace Session

variable {w : Session} {l l' : Lambda}

/-- The state after a call for which nothing is registered: a tuple of the arguments and the object
that stands for none have been made, and the call and the miss are counted. -/
def missing (w : Session) (args : List (Option Ref)) : Session :=
  ((Dispatch.entered (w.making (.tuple args))).counted fun s =>
    { s with misses := s.misses + 1 }).making .none

theorem get_missing (w : Session) (args : List (Option Ref)) :
    (missing w args).outside.store.heap.get (some (w.outside.store.heap.objects.size + 1)) =
      .none := by
  have hsize : (w.making (.tuple args)).outside.store.heap.objects.size =
    w.outside.store.heap.objects.size + 1 := Array.size_push _
  rw [← hsize]
  exact Script.Heap.get_alloc_self _ _

/-- The callable of a lambda, called in a scripted interpreter, enters the router with an object
under which whatever is registered under the lambda's identifier is found. -/
theorem Tidy.run_call (h : Tidy w) {i k : Nat} (hl : w.lambdas[i]? = some l)
    (hm : l.machine = .scripted k) (n m : Nat) (args : List (Option Ref)) :
    ∃ self : Ref,
      ((Recursion.level (n + 1)).call m (some l.callable) args).run.run w =
        (Script.Eval.ofExec ((Recursion.level n).enter (some self)
          (some w.outside.store.heap.objects.size)) >>=
            Script.receive m).run.run (w.making (.tuple args)) ∧
      Dispatch.found? (w.making (.tuple args)) (some self) = w.registry.get? l.id := by
  obtain ⟨d, self, hc, hd, ht⟩ := h.wired hl k hm
  refine ⟨self, ?_, ?_⟩
  · refine Script.run_invoke (Script.Heap.get_of_getElem? hc) ?_
    rw [Array.getElem?_eq_getElem hd]
    exact h.ready.entry (Array.getElem?_eq_getElem hd)
  · have ht' : (w.making (.tuple args)).outside.store.heap.get (some self) = .text l.id.text := by
      have hfixed := (Script.Store.Grows.alloc w.outside.store (.tuple args)).fixed ht rfl
      exact Script.Heap.get_of_getElem? hfixed
    unfold Dispatch.found?
    rw [ht']
    rfl

/-- The callable of a lambda, released or not, called while a scripted interpreter is bound, is
served with the closure of the unreleased lambda that has its identifier. -/
theorem Tidy.call_served (h : Tidy w) {i i' j k : Nat} (hl : w.lambdas[i]? = some l)
    (hm : l.machine = .scripted j) (hu : Unreleased w.lambdas i' l') (hid : l'.id = l.id)
    (hb : w.bound = some (.scripted k)) (n m : Nat) (args : List (Option Ref)) :
    ((Recursion.level (n + 1)).call m (some l.callable) args).run.run w =
      (Script.Eval.ofExec (Dispatch.guarded (Recursion.level n).machine
        (Dispatch.serve ((Recursion.level n).machine (.scripted k)) (Recursion.level n).host
          (some w.outside.store.heap.objects.size) l'.shape l'.call)) >>=
            Script.receive m).run.run (w.making (.tuple args)) := by
  obtain ⟨self, hcall, hfound⟩ := h.run_call hl hm n m args
  rw [← hid, h.maps.get?_eq hu] at hfound
  have hb' : (w.making (.tuple args)).bound = some (.scripted k) := hb
  have hserved : ((Recursion.level n).enter (some self)
      (some w.outside.store.heap.objects.size)).run (w.making (.tuple args)) = _ :=
    Dispatch.run_dispatch_of_found hb' hfound
  rw [hcall, Script.Eval.run_ofExec_bind, Script.Eval.run_ofExec_bind, hserved]
  rfl

/-- The callable of a lambda, called while a scripted interpreter is bound and no unreleased lambda
has its identifier, is missed. -/
theorem Tidy.call_missed (h : Tidy w) {i j k : Nat} (hl : w.lambdas[i]? = some l)
    (hm : l.machine = .scripted j) (hid : ∀ i' l', Unreleased w.lambdas i' l' → l'.id ≠ l.id)
    (hb : w.bound = some (.scripted k)) (n m : Nat) (args : List (Option Ref)) :
    ((Recursion.level (n + 1)).call m (some l.callable) args).run.run w =
      (.ok (.ok (some (w.outside.store.heap.objects.size + 1))), missing w args) := by
  obtain ⟨self, hcall, hfound⟩ := h.run_call hl hm n m args
  rw [h.maps.get?_eq_none hid] at hfound
  have hb' : (w.making (.tuple args)).bound = some (.scripted k) := hb
  have hsize : (w.making (.tuple args)).outside.store.heap.objects.size =
    w.outside.store.heap.objects.size + 1 := Array.size_push _
  have hmissed : ((Recursion.level n).enter (some self)
      (some w.outside.store.heap.objects.size)).run (w.making (.tuple args)) = _ :=
    Dispatch.run_dispatch_of_missed hb' hfound
  rw [hcall, Script.Eval.run_ofExec_bind, hmissed, hsize]
  rfl

end Session

end ClosureBridge
