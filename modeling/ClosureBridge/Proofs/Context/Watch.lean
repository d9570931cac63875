import ClosureBridge.Proofs.Context.Operation
import ClosureBridge.Proofs.Dispatch.Ending

/-!
# Closures under a watch

Whether the closures that a run reaches leave the pending error as they found it is a matter of the
run at hand. They are therefore run under a watch, which stops a run as soon as one of them has
changed the pending error. A run that is not stopped is the run without the watch.

## Main definitions

* `Session.Bound`, `Session.Settled`: an interpreter is bound, and has no error pending.
* `Session.watch`: a computation under the watch.
* `Recursion.watchedCall`: calls of objects, with the closures that they reach watched.

## Main statements

* `Script.Store.pending?_after`: events that are no errors leave none pending.
* `Recursion.watchedCall_extends`: calls that are not stopped are as they are without the watch.
* `Session.keeps_watchedCall`: calls whose closures are watched leave no error pending.
-/

namespace ClosureBridge

open Script (Event Object Store)

/-! ### The pending error under events -/

namespace Script.Store

/-- The error that an interpreter has pending. -/
def pending? (s : Store) (k : Nat) : Option Fault :=
  (s.machines[k]?).bind Machine.pending

theorem pending?_modifying (s : Store) (m : Nat) {f : Machine → Machine}
    (hf : ∀ x, (f x).pending = x.pending) (k : Nat) :
    (s.modifying m f).pending? k = s.pending? k := by
  rw [pending?, modifying, Array.getElem?_modify]
  split
  · rw [pending?, Option.bind_map]
    exact congrArg _ (funext hf)
  · rfl

theorem pending?_changing (s : Store) (r : Ref) (f : Object → Option Object) (k : Nat) :
    (s.changing r f).pending? k = s.pending? k := by
  unfold changing
  split <;> rfl

/-- An error that is taken is pending no more. -/
theorem pending?_taken (s : Store) (k : Nat) :
    ((Event.pended k none).apply s).pending? k = none := by
  rw [pending?, Event.apply, modifying, Array.getElem?_modify, if_pos rfl, Option.bind_map]
  cases s.machines[k]? <;> rfl

/-- An event that is no error leaves no error pending where there was none. -/
theorem pending?_apply {s : Store} {k : Nat} (h : s.pending? k = none) {e : Event}
    (he : e.isRaise = false) : (e.apply s).pending? k = none := by
  cases e with
  | made o _ => exact h
  | opened => exact h
  | bound scope name value => rw [Event.apply, pending?_changing, h]
  | attributed target name value => rw [Event.apply, pending?_changing, h]
  | wrote buffer text => rw [Event.apply, pending?_changing, h]
  | marked buffer => rw [Event.apply, pending?_changing, h]
  | printed m text =>
    rw [Event.apply, printing]
    split
    · rw [pending?_modifying, h]
      exact fun _ => rfl
    · rw [pending?_changing, h]
  | pended m fault =>
    cases fault with
    | some fault => cases he
    | none =>
      by_cases hm : m = k
      · rw [hm, pending?_taken]
      · rw [pending?, Event.apply, modifying, Array.getElem?_modify, if_neg hm]
        exact h
  | ran m source =>
    rw [Event.apply, pending?_modifying, h]
    exact fun _ => rfl
  | redirected m sink =>
    rw [Event.apply, pending?_modifying, h]
    exact fun _ => rfl
  | added textConstructor =>
    rw [pending?, Event.apply, adding, Array.getElem?_push]
    split
    · rfl
    · exact h

theorem pending?_after {s : Store} {k : Nat} (h : s.pending? k = none) {es : List Event}
    (he : ∀ e ∈ es, e.isRaise = false) : (s.after es).pending? k = none := by
  induction es generalizing s with
  | nil => exact h
  | cons e es ih =>
    have hfirst := pending?_apply h (he e List.mem_cons_self)
    exact ih hfirst fun e' he' => he e' (List.mem_cons_of_mem e he')

end Script.Store

namespace Session

/-- A scripted interpreter is there and bound. -/
structure Bound (k : Nat) (w : Session) : Prop where
  bound : w.bound = some (.scripted k)
  lt : k < w.outside.store.machines.size

/-- A scripted interpreter is bound and has no error pending. -/
structure Settled (k : Nat) (w : Session) : Prop extends Bound k w where
  pending : w.pending k = none

variable {k : Nat}

theorem stable_bound (k : Nat) : Stable True (Bound k) where
  toLasting := .of_change
    (fun hc _ _ hw => ⟨hc.bound_eq hw.bound, hc.grows.lt_machines hw.lt⟩)
    fun _ _ _ call _ args => (call args).obeys_of_direct trivial
  counted _ hw := ⟨hw.bound, hw.lt⟩

theorem steady_settled (k : Nat) : Steady False True (Settled k) where
  emit he hes hdesk hw := by
    have hraise := fun e h => Bool.eq_false_iff.mpr (he e h).raise
    have hbound := (stable_bound k).steady.calm.emit he hes hdesk hw.toBound
    refine ⟨hbound, ?_⟩
    change Store.pending? _ k = none
    rw [hes]
    exact Store.pending?_after hw.pending hraise

/-- Taking the pending error leaves none. -/
theorem Bound.take {w : Session} (hw : Bound k w) :
    Settled k { w with
      outside := (ReaderT.run (Store.takeFault k) w.descriptors w.outside).2 } where
  toBound := (stable_bound k).quiet (.takeFault k) w hw
  pending := w.outside.store.pending?_taken k

/-! ### The watch -/

/-- A computation that is stopped when it has changed the pending error of an interpreter. One that
is stopped, for that or for want of budget, has done nothing. -/
def watch {α : Type} (k : Nat) (m : Exec Session α) : Exec Session α :=
  ExceptT.mk fun w =>
    match m.run w with
    | (.error .exhausted, _) => (.error .exhausted, w)
    | (out, v) => if v.pending k = w.pending k then (out, v) else (.error .exhausted, w)

theorem run_watch {α : Type} (m : Exec Session α) (w : Session) :
    (watch k m).run w = (.error .exhausted, w) ∨
      (watch k m).run w = m.run w ∧ (m.run w).2.pending k = w.pending k := by
  have hrun : (watch k m).run w = match m.run w with
    | (.error .exhausted, _) => (.error .exhausted, w)
    | (out, v) => if v.pending k = w.pending k then (out, v) else (.error .exhausted, w) := rfl
  rw [hrun]
  generalize m.run w = r
  split
  · exact .inl rfl
  · next out v _ =>
    by_cases h : v.pending k = w.pending k
    · exact .inr ⟨if_pos h, h⟩
    · exact .inl (if_neg h)

/-- What is not stopped is as it is without the watch. -/
theorem watch_extends {α : Type} (m : Exec Session α) : Exec.Extends (watch k m) m := by
  intro w
  rcases run_watch m w with h | ⟨h, -⟩
  · exact .inl (by rw [h])
  · exact .inr h.symm

theorem keeps_bound_watch {α : Type} {m : Exec Session α} (hm : Exec.Keeps (Bound k) m) :
    Exec.Keeps (Bound k) (watch k m) := by
  intro w hw
  rcases run_watch m w with h | ⟨h, -⟩
  · rw [h]
    exact hw
  · rw [h]
    exact hm w hw

/-- Under the watch no error gets pending. -/
theorem keeps_watch {α : Type} {m : Exec Session α} (hm : Exec.Keeps (Bound k) m) :
    Exec.Keeps (Settled k) (watch k m) := by
  intro w hw
  rcases run_watch m w with h | ⟨h, hpending⟩
  · rw [h]
    exact hw
  · rw [h]
    exact ⟨hm w hw.toBound, hpending.trans hw.pending⟩

end Session

namespace Recursion

/-- The closures of the host, watched. -/
def watchedHost (k n : Nat) (p : Program .value) : Exec Session HostValue :=
  Session.watch k ((level n).host p)

/-- Calls of objects, with the closures that they reach watched. -/
def watchedCall (k : Nat) : Nat → Script.Caller Bench
  | 0 => fun _ _ _ => ExceptT.lift Exec.exhausted
  | n + 1 =>
    Script.invoke (Dispatch.dispatch (level n).machine (watchedHost k n)) (watchedCall k n)

/-- Calls that are not stopped are as they are without the watch. -/
theorem watchedCall_extends (k n : Nat) : (watchedCall k n).Extends (level n).call := by
  induction n with
  | zero => exact fun _ _ _ => .exhausted _
  | succ n ih =>
    have hr : Extends ⟨(level n).call, watchedHost k n⟩ (level n) :=
      ⟨fun _ _ _ => .refl _, fun p => Session.watch_extends _⟩
    exact ih.invoke hr.enter

end Recursion

namespace Session

open Dispatch (Ends Exhausts)
open Script (Eval)

variable {k : Nat}

theorem keeps_bound_host (k n : Nat) (p : Program .value) :
    Exec.Keeps (Bound k) ((Recursion.level n).host p) :=
  ((stable_bound k).level n).host p (p.obeys_of_direct trivial)

/-- What a closure that keeps a property leaves has it. -/
theorem keeps_left {P : Session → Prop} {host : Program .value → Exec Session HostValue}
    {self args : Option Ref} {w : Session} {e : Dispatch.Ending}
    (hh : ∀ p, Exec.Keeps P (host p)) (h : Ends host k self args w e)
    (hw : P (Dispatch.entered w)) : P e.left := by
  have run {p : Program .value} {out : Except Stop HostValue} {left : Session}
      (hr : (host p).run (Dispatch.entered w) = (out, left)) : P left := by
    have hleft := hh p _ hw
    rw [hr] at hleft
    exact hleft
  cases h with
  | missed hf => exact hw
  | refused hf ha => exact hw
  | panicked hf ha hr => exact run hr
  | unfit hf ha hr hv => exact run hr
  | answered hf ha hr hv => exact run hr

/-- A call of the router whose closure is watched leaves no error pending, once its answer has been
received: an error is pending exactly when the answer is missing, and then it is taken. -/
theorem keeps_receive (k n : Nat) (self args : Option Ref) :
    Eval.Keeps (Settled k)
      (Eval.ofExec (Dispatch.dispatch (Recursion.level n).machine (Recursion.watchedHost k n)
        self args) >>= Script.receive k) := by
  have hhost : ∀ p, Exec.Keeps (Settled k) (Recursion.watchedHost k n p) := fun p =>
    keeps_watch (keeps_bound_host k n p)
  have hmachine := (stable_bound k).interpreter ((stable_bound k).level n)
  have henter := (stable_bound k).dispatch hmachine
    (fun p _ => keeps_bound_watch (keeps_bound_host k n p)) self args
  intro w hw
  have hentered : Settled k (Dispatch.entered w) := ⟨⟨hw.bound, hw.lt⟩, hw.pending⟩
  have hfinal := henter w hw.toBound
  rw [Eval.run_ofExec_bind]
  rcases Dispatch.ends_or_exhausts (Recursion.watchedHost k n) k self args w with
    ⟨e, he⟩ | ⟨left, hx⟩
  · have hleft : Settled k e.left := keeps_left hhost he hentered
    have hrun : (Dispatch.dispatch (Recursion.level n).machine (Recursion.watchedHost k n)
        self args).run w = (.ok e.answer, e.final) := he.run_eq hw.bound hleft.bound
    have hpending : e.final.pending k = e.raised := by
      rw [he.pending_final hleft.lt, hleft.pending, Option.or_none]
    have hfinal' : Bound k e.final := by
      have hsame : ((Dispatch.dispatch (Recursion.level n).machine (Recursion.watchedHost k n)
        self args).run w).2 = e.final := by rw [hrun]
      exact hsame ▸ hfinal
    rw [hrun]
    dsimp only
    cases ha : e.answer with
    | some r =>
      have hraised : e.raised = none := by
        rw [← Option.not_isSome_iff_eq_none, ← he.answer_eq_none_iff, ha]
        exact Option.some_ne_none r
      exact ⟨hfinal', hpending.trans hraised⟩
    | none => exact hfinal'.take
  · have hrun : (Dispatch.dispatch (Recursion.level n).machine (Recursion.watchedHost k n)
        self args).run w = (.error .exhausted, left) := hx.run_eq hw.bound
    obtain ⟨shape, call, arguments, hf, hu, hr⟩ := hx
    have hleft := hhost (call arguments) _ hentered
    rw [hr] at hleft
    rw [hrun]
    exact hleft

/-- Calls of objects leave no error pending when the closures that they reach are watched. -/
theorem keeps_watchedCall (k n : Nat) (f : Option Ref) (args : List (Option Ref)) :
    Eval.Keeps (Settled k) (Recursion.watchedCall k n k f args) := by
  induction n generalizing f args with
  | zero => exact Eval.Keeps.ofExec .exhausted
  | succ n ih => exact (steady_settled k).invoke ih (keeps_receive k n) f args

end Session

end ClosureBridge
