import ClosureBridge.Proofs.Lambda.Registered

/-!
# Calling a released lambda

A callable that an interpreter took before its lambda was released can still be called. It carries
nothing but the text of the identifier, so what becomes of the call depends on whether another
lambda has taken the identifier since.

## Main statements

* `Session.call_released`: the call is missed exactly as long as no unreleased lambda has the
  identifier; otherwise it is served with the closure of that lambda.
* `Session.not_call_released_missed`: a released lambda's callable can reach another closure.
-/

namespace ClosureBridge.Session

variable {w v : Session} {l : Lambda}

/-- A released lambda stays as it is. -/
theorem Change.released_eq {direct : Prop} (hc : Change direct w v) {i : Nat}
    (hl : w.lambdas[i]? = some l) (hr : l.descriptor = none) : v.lambdas[i]? = some l := by
  cases hc with
  | exposed _ _ _ _ _ =>
    have hlt : i < w.lambdas.size := (Array.getElem?_eq_some_iff.mp hl).1
    rw [Array.getElem?_push, if_neg (Nat.ne_of_lt hlt)]
    exact hl
  | @released n d l' _ hl' hd _ =>
    have hne : n ≠ i := by
      rintro rfl
      rw [hl, Option.some.injEq] at hl'
      rw [hl', hd] at hr
      cases hr
    rw [Array.getElem?_setIfInBounds_ne hne]
    exact hl
  | _ => exact hl

theorem released_of_reaches {direct : Prop} (hv : Reaches direct w v) {i : Nat}
    (hl : w.lambdas[i]? = some l) (hr : l.descriptor = none) : v.lambdas[i]? = some l := by
  induction hv with
  | refl => exact hl
  | tail _ hc ih => exact hc.released_eq ih hr

/-- **What becomes of a call of a released lambda.** In every later state the callable of a released
lambda is answered with the object that stands for none, runs no closure, counts one miss and leaves
the pending errors alone, as long as no unreleased lambda has the identifier. Otherwise the call is
served with the closure of the lambda that has it. -/
theorem call_released (hw : Reachable w) {i j k : Nat} (hl : w.lambdas[i]? = some l)
    (hr : l.descriptor = none) (hm : l.machine = .scripted j) (hv : Reaches False w v)
    (hb : v.bound = some (.scripted k)) (n m : Nat) (args : List (Option Ref)) :
    ((∀ i' l', Unreleased v.lambdas i' l' → l'.id ≠ l.id) →
        ((Recursion.level (n + 1)).call m (some l.callable) args).run.run v =
            (.ok (.ok (some (v.outside.store.heap.objects.size + 1))), missing v args) ∧
          (missing v args).outside.store.heap.get
            (some (v.outside.store.heap.objects.size + 1)) = .none ∧
          (missing v args).stats =
            { v.stats with calls := v.stats.calls + 1, misses := v.stats.misses + 1 } ∧
          ∀ k', (missing v args).pending k' = v.pending k') ∧
      ∀ i' l', Unreleased v.lambdas i' l' → l'.id = l.id →
        ((Recursion.level (n + 1)).call m (some l.callable) args).run.run v =
          (Script.Eval.ofExec (Dispatch.guarded (Recursion.level n).machine
            (Dispatch.serve ((Recursion.level n).machine (.scripted k)) (Recursion.level n).host
              (some v.outside.store.heap.objects.size) l'.shape l'.call)) >>=
                Script.receive m).run.run (v.making (.tuple args)) := by
  have h : Tidy v := hw.tidy.reaches hv
  have hl' : v.lambdas[i]? = some l := released_of_reaches hv hl hr
  constructor
  · intro hid
    exact ⟨h.call_missed hl' hm hid hb n m args, get_missing v args, rfl, fun k' => rfl⟩
  · intro i' l' hu hid
    exact h.call_served hl' hm hu hid hb n m args

/-- An identifier is taken and given back by a release. -/
def freed : Session :=
  taking 1 (reuse.take 4) Trial.fresh

theorem reachable_freed : Reachable freed :=
  .taking 1 fun s hs => obeys_reuse s (List.mem_of_mem_take hs)

theorem not_unreleased_freed (i : Nat) (l : Lambda) : ¬Unreleased freed.lambdas i l := by
  rintro ⟨hl, hd⟩
  match i with
  | 0 =>
    cases hl
    cases hd
  | i + 1 =>
    have hnone : freed.lambdas[i + 1]? = none := rfl
    cases hnone.symm.trans hl

/-- While the identifier is free the callable of the released lambda is missed. -/
theorem call_released_freed :
    ∃ l, freed.lambdas[0]? = some l ∧ l.descriptor = none ∧
      ((Recursion.level 2).call 0 (some l.callable) [some 0]).run.run freed =
        (.ok (.ok (some (freed.outside.store.heap.objects.size + 1))), missing freed [some 0]) := by
  obtain ⟨hmissed, -⟩ := call_released reachable_freed (i := 0) rfl rfl rfl .refl rfl 1 0 [some 0]
  exact ⟨_, rfl, rfl, (hmissed fun i l hu => absurd hu (not_unreleased_freed i l)).1⟩

/-- Once the identifier has been taken again, the callable of the released lambda reaches the
closure that took it, and nothing is missed. -/
theorem not_call_released_missed :
    ¬∀ (w v : Session) (i j k : Nat) (l : Lambda), Reachable w → w.lambdas[i]? = some l →
      l.descriptor = none → l.machine = .scripted j → Reaches False w v →
      v.bound = some (.scripted k) → ∀ (n m : Nat) (args : List (Option Ref)), ∃ r v',
        ((Recursion.level (n + 1)).call m (some l.callable) args).run.run v =
            (.ok (.ok (some r)), v') ∧
          v'.outside.store.heap.get (some r) = .none ∧
          v'.stats.misses = v.stats.misses + 1 := by
  intro h
  have hsteps : ∀ s ∈ reuse.drop 4, s.Obeys False := fun s hs =>
    obeys_reuse s (List.mem_of_mem_drop hs)
  have hv := reachable_freed.tidy.reaches_taking 1 _ hsteps
  obtain ⟨r, v', hrun, -, hmisses⟩ :=
    h freed _ 0 0 0 _ reachable_freed rfl rfl rfl hv rfl 1 0 [some 0]
  have hserved : (((Recursion.level 2).call 0 (some 3) [some 0]).run.run
      (taking 1 (reuse.drop 4) freed)).2.stats.misses = 0 := rfl
  have hcallable : ((Recursion.level 2).call 0 (some 3) [some 0]).run.run
      (taking 1 (reuse.drop 4) freed) = (.ok (.ok (some r)), v') := hrun
  rw [hcallable] at hserved
  have hmissed : v'.stats.misses = 1 := hmisses
  rw [hserved] at hmissed
  cases hmissed

end ClosureBridge.Session
