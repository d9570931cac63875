import ClosureBridge.Proofs.Order.State
import ClosureBridge.Proofs.Session.Keeps

/-!
# Computations that hand out what is there

A computation that starts in an orderly state with a number of objects ends in an orderly state with
no fewer, however it ends; and what it gives refers to objects that are there by then. Since objects
only become more, what was there stays there, and computations can be put together.

## Main definitions

* `Quiet.Gives`, `Exec.Gives`, `Script.Eval.Gives`: a computation leaves an orderly state and gives
  a result of which something holds, with the number of objects by then.

## Main statements

* `Exec.Gives.bind`, `Exec.Gives.catchPanic`, `Exec.Gives.andFinally`: computations put together.
* `Exec.Gives.quiet`: an operation that runs no code of the host as a computation.
-/

namespace ClosureBridge

/-- Nothing is told about a result. -/
def Untold {α : Type} (_ : Nat) (_ : α) : Prop :=
  True

/-- Something is told about a result that is no failure. -/
def OfOk {ε α : Type} (Q : Nat → α → Prop) (k : Nat) (r : Except ε α) : Prop :=
  ∀ a, r = .ok a → Q k a

variable {n k : Nat} {ε α β : Type} {Q : Nat → α → Prop} {R : Nat → β → Prop}

theorem ofOk_ok {a : α} (h : Q k a) : OfOk Q k (.ok a : Except ε α) :=
  fun _ ha => Except.ok.inj ha ▸ h

theorem ofOk_error (e : ε) : OfOk Q k (.error e) :=
  nofun

/-! ### Operations that run no code of the host -/

namespace Quiet

/-- What an operation leaves: an orderly store with no fewer objects, and a result. -/
structure Leaves (Q : Nat → α → Prop) (o : Bench.Outside) (r : α × Bench.Outside) : Prop where
  orderly : r.2.store.Orderly
  grows : o.store.extent ≤ r.2.store.extent
  rest : r.2.rest = o.rest
  result : Q r.2.store.extent r.1

/-- An operation leaves an orderly store where there was one with `n` objects or more. -/
def Gives (n : Nat) (Q : Nat → α → Prop) (q : Quiet Bench.Outside α) : Prop :=
  ∀ (d : DescriptorPool) (o : Bench.Outside), o.store.Orderly → n ≤ o.store.extent →
    Leaves Q o (ReaderT.run q d o)

namespace Gives

variable {q : Quiet Bench.Outside α}

theorem mono (h : n ≤ k) (hq : Gives n Q q) : Gives k Q q :=
  fun d o ho hk => hq d o ho (Nat.le_trans h hk)

/-- An operation that changes nothing. -/
theorem of_reads (hreads : ∀ d o, (ReaderT.run q d o).2 = o)
    (h : ∀ d (o : Bench.Outside), o.store.Orderly → n ≤ o.store.extent →
      Q o.store.extent (ReaderT.run q d o).1) : Gives n Q q := by
  intro d o ho hn
  have hresult := h d o ho hn
  have hstate := hreads d o
  generalize ReaderT.run q d o = r at hresult hstate
  subst hstate
  exact ⟨ho, Nat.le_refl _, rfl, hresult⟩

theorem pure {a : α} (h : ∀ k, n ≤ k → Q k a) : Gives n Q (Pure.pure a : Quiet Bench.Outside α) :=
  of_reads (fun _ _ => rfl) fun _ _ _ hn => h _ hn

/-- An operation and one that goes on from its result. -/
theorem bind {f : α → Quiet Bench.Outside β} (hq : Gives n Q q)
    (hf : ∀ k, n ≤ k → ∀ a, Q k a → Gives k R (f a)) : Gives n R (q >>= f) := by
  intro d o ho hn
  have hr := hq d o ho hn
  have hr' := hf _ (Nat.le_trans hn hr.grows) _ hr.result d _ hr.orderly (Nat.le_refl _)
  exact ⟨hr'.orderly, Nat.le_trans hr.grows hr'.grows, hr'.rest.trans hr.rest, hr'.result⟩

end Gives

end Quiet

/-! ### Computations of the library -/

namespace Exec

/-- What a computation leaves, however it ends: an orderly state with no fewer objects, and a result
if it gives one. -/
structure Leaves (Q : Nat → α → Prop) (w : Session) (r : Except Stop α × Session) : Prop where
  orderly : r.2.Orderly
  grows : w.extent ≤ r.2.extent
  result : OfOk Q r.2.extent r.1

/-- A computation leaves an orderly state where there was one with `n` objects or more. -/
def Gives (n : Nat) (Q : Nat → α → Prop) (m : Exec Session α) : Prop :=
  ∀ w : Session, w.Orderly → n ≤ w.extent → Leaves Q w (m.run w)

namespace Gives

variable {m : Exec Session α}

theorem mono (h : n ≤ k) (hm : Gives n Q m) : Gives k Q m :=
  fun w hw hk => hm w hw (Nat.le_trans h hk)

/-- What a computation gives need not be told. -/
theorem untold (hm : Gives n Q m) : Gives n Untold m := by
  intro w hw hn
  have hr := hm w hw hn
  exact ⟨hr.orderly, hr.grows, fun _ _ => trivial⟩

theorem pure {a : α} (h : ∀ k, n ≤ k → Q k a) : Gives n Q (Pure.pure a : Exec Session α) :=
  fun _ hw hn => ⟨hw, Nat.le_refl _, ofOk_ok (h _ hn)⟩

theorem pure_untold (a : α) : Gives n Untold (Pure.pure a : Exec Session α) :=
  pure fun _ _ => trivial

theorem panic (payload : Payload) : Gives n Q (Exec.panic payload : Exec Session α) :=
  fun _ hw _ => ⟨hw, Nat.le_refl _, nofun⟩

theorem exhausted : Gives n Q (Exec.exhausted : Exec Session α) :=
  fun _ hw _ => ⟨hw, Nat.le_refl _, nofun⟩

theorem state : Gives n Untold (get : Exec Session Session) :=
  fun _ hw _ => ⟨hw, Nat.le_refl _, ofOk_ok trivial⟩

/-- A computation that goes on from the state. -/
theorem bind_get {f : Session → Exec Session β}
    (hf : ∀ w : Session, w.Orderly → n ≤ w.extent → Leaves R w ((f w).run w)) :
    Gives n R (get >>= f) :=
  hf

/-- A change of the state that makes no objects. -/
theorem modifyGet {f : Session → α × Session}
    (hf : ∀ w : Session, w.Orderly → n ≤ w.extent →
      (f w).2.Orderly ∧ (f w).2.extent = w.extent ∧ Q w.extent (f w).1) :
    Gives n Q (MonadStateOf.modifyGet f : Exec Session α) := by
  intro w hw hn
  obtain ⟨horderly, hextent, hresult⟩ := hf w hw hn
  refine ⟨horderly, Nat.le_of_eq hextent.symm, fun a ha => ?_⟩
  obtain rfl : (f w).1 = a := Except.ok.inj ha
  exact hextent ▸ hresult

theorem modify {f : Session → Session}
    (hf : ∀ w : Session, w.Orderly → (f w).Orderly ∧ (f w).extent = w.extent) :
    Gives n Untold (modify f : Exec Session PUnit) :=
  modifyGet fun w hw _ => ⟨(hf w hw).1, (hf w hw).2, trivial⟩

/-- A computation and one that goes on from its result. -/
theorem bind {f : α → Exec Session β} (hm : Gives n Q m)
    (hf : ∀ k, n ≤ k → ∀ a, Q k a → Gives k R (f a)) : Gives n R (m >>= f) := by
  intro w hw hn
  have hr := hm w hw hn
  rw [run_bind]
  generalize m.run w = r at hr ⊢
  obtain ⟨stop | a, v⟩ := r
  · exact ⟨hr.orderly, hr.grows, nofun⟩
  · -- The second computation starts with the objects that the first one has left.
    have hr' := hf _ (Nat.le_trans hn hr.grows) a (hr.result a rfl) v hr.orderly (Nat.le_refl _)
    exact ⟨hr'.orderly, Nat.le_trans hr.grows hr'.grows, hr'.result⟩

/-- A computation and what is made of its result. -/
theorem bind_pure {f : α → β} (hm : Gives n Q m) (hf : ∀ k, n ≤ k → ∀ a, Q k a → R k (f a)) :
    Gives n R (m >>= fun a => Pure.pure (f a)) := by
  intro w hw hn
  have hr := hm w hw hn
  rw [run_bind]
  generalize m.run w = r at hr ⊢
  obtain ⟨stop | a, v⟩ := r
  · exact ⟨hr.orderly, hr.grows, nofun⟩
  · exact ⟨hr.orderly, hr.grows,
      ofOk_ok (hf _ (Nat.le_trans hn hr.grows) a (hr.result a rfl))⟩

/-- What a panic leaves is told only by the result that it did not give. -/
theorem catchPanic (hm : Gives n Q m) :
    Gives n (OfOk Q) m.catchPanic := by
  intro w hw hn
  have hr := hm w hw hn
  rw [run_catchPanic]
  generalize m.run w = r at hr ⊢
  obtain ⟨(payload | _) | a, v⟩ := r
  · exact ⟨hr.orderly, hr.grows, ofOk_ok (ofOk_error payload)⟩
  · exact ⟨hr.orderly, hr.grows, nofun⟩
  · exact ⟨hr.orderly, hr.grows, ofOk_ok (ofOk_ok (hr.result a rfl))⟩

/-- What comes after a computation may make objects, so what is told of the result has to hold when
there are more. -/
theorem andFinally {after : Exec Session Unit} (hQ : ∀ {k k' a}, k ≤ k' → Q k a → Q k' a)
    (hm : Gives n Q m) (hafter : Gives n Untold after) : Gives n Q (m.andFinally after) := by
  refine bind hm.catchPanic fun k hk r hr => ?_
  cases r with
  | ok a =>
    exact bind (hafter.mono hk) fun k' hk' _ _ =>
      pure fun k'' hk'' => hQ (Nat.le_trans hk' hk'') (hr a rfl)
  | error payload => exact bind (hafter.mono hk) fun _ _ _ _ => panic payload

/-- An operation that runs no code of the host. -/
theorem quiet {q : Quiet Bench.Outside α} (hq : Quiet.Gives n Q q) : Gives n Q q.run := by
  intro w hw hn
  have hr := hq w.descriptors w.outside hw.store hn
  rw [Quiet.run_run]
  generalize ReaderT.run q w.descriptors w.outside = r at hr ⊢
  refine ⟨hw.outside hr.orderly hr.grows ?_, hr.grows, ofOk_ok hr.result⟩
  rw [hr.rest]
  exact hw.desk.mono hr.grows

theorem mapM_untold {f : α → Exec Session β} (hf : ∀ a, Gives n Untold (f a)) (l : List α) :
    Gives n Untold (l.mapM f) := by
  induction l with
  | nil => exact pure_untold []
  | cons a rest ih =>
    rw [List.mapM_cons]
    exact bind (hf a) fun _ hk _ _ => bind (ih.mono hk) fun _ _ _ _ => pure_untold _

end Gives

end Exec

/-! ### Computations of scripts -/

namespace Script.Eval

/-- A computation of a script leaves an orderly state, also when it ends with an error. -/
def Gives (n : Nat) (Q : Nat → α → Prop) (m : Eval Bench α) : Prop :=
  Exec.Gives n (OfOk Q) m.run

namespace Gives

variable {m : Eval Bench α}

theorem mono (h : n ≤ k) (hm : Gives n Q m) : Gives k Q m :=
  Exec.Gives.mono h hm

theorem pure {a : α} (h : ∀ k, n ≤ k → Q k a) : Gives n Q (Pure.pure a : Eval Bench α) :=
  Exec.Gives.pure fun k hk => ofOk_ok (h k hk)

theorem throw (e : Fault) : Gives n Q (throw e : Eval Bench α) :=
  Exec.Gives.pure fun _ _ => ofOk_error e

theorem ofExec {m : Exec Session α} (hm : Exec.Gives n Q m) : Gives n Q (ofExec m) :=
  hm.bind_pure fun _ _ _ ha => ofOk_ok ha

theorem quiet {q : Quiet Bench.Outside α} (hq : Quiet.Gives n Q q) : Gives n Q (quiet q) :=
  ofExec (.quiet hq)

/-- A computation and one that goes on from its result. -/
theorem bind {f : α → Eval Bench β} (hm : Gives n Q m)
    (hf : ∀ k, n ≤ k → ∀ a, Q k a → Gives k R (f a)) : Gives n R (m >>= f) := by
  refine Exec.Gives.bind hm fun k hk r hr => ?_
  cases r with
  | ok a => exact hf k hk a (hr a rfl)
  | error e => exact Exec.Gives.pure fun _ _ => ofOk_error e

/-- A computation and what is made of its result. -/
theorem bind_pure {f : α → β} (hm : Gives n Q m) (hf : ∀ k, n ≤ k → ∀ a, Q k a → R k (f a)) :
    Gives n R (m >>= fun a => Pure.pure (f a)) := by
  intro w hw hn
  have hr := hm w hw hn
  change Exec.Leaves _ w ((m.run >>= ExceptT.bindCont fun a => Pure.pure (f a)).run w)
  rw [Exec.run_bind]
  generalize m.run.run w = r at hr ⊢
  obtain ⟨stop | e | a, v⟩ := r
  · exact ⟨hr.orderly, hr.grows, nofun⟩
  · exact ⟨hr.orderly, hr.grows, ofOk_ok (ofOk_error e)⟩
  · exact ⟨hr.orderly, hr.grows,
      ofOk_ok (ofOk_ok (hf _ (Nat.le_trans hn hr.grows) a (hr.result _ rfl a rfl)))⟩

theorem mapM_untold {f : α → Eval Bench β} (hf : ∀ a, Gives n Untold (f a)) (l : List α) :
    Gives n Untold (l.mapM f) := by
  induction l with
  | nil => exact pure fun _ _ => trivial
  | cons a rest ih =>
    rw [List.mapM_cons]
    exact bind (hf a) fun _ hk _ _ => bind_pure (ih.mono hk) fun _ _ _ _ => trivial

end Gives

end Script.Eval

end ClosureBridge
