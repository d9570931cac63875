import ClosureBridge.Proofs.Session.Change

/-!
# Computations that keep a property

A computation keeps a property of states when, however it ends, it ends in a state with the
property if it starts in one. What keeps a property is put together the way computations are.

## Main definitions

* `Exec.Keeps`, `Script.Eval.Keeps`: a computation keeps a property.
* `Session.Steady`: a property that is kept by events in the store.
* `Interpreter.Keeps`: the operations of an interpreter are events, and running source keeps a
  property.

## Main statements

* `Exec.run_bind`: a computation and one that goes on from its result, run.
* `Exec.Keeps.bind`, `Exec.Keeps.catchPanic`, `Exec.Keeps.andFinally`: computations put together.
* `Session.Steady.quiet`: an operation that is a list of events keeps what is steady.
-/

namespace ClosureBridge

namespace Exec

variable {σ α β : Type} {P : σ → Prop}

/-- A computation and one that goes on from its result, run. -/
theorem run_bind (m : Exec σ α) (f : α → Exec σ β) (s : σ) :
    (m >>= f).run s =
      match m.run s with
      | (.ok a, s) => (f a).run s
      | (.error e, s) => (.error e, s) := by
  change ExceptT.bindCont f (m.run s).1 (m.run s).2 = _
  rcases m.run s with ⟨_ | _, _⟩ <;> rfl

theorem run_bind_of_ok {m : Exec σ α} {f : α → Exec σ β} {s s' : σ} {a : α}
    (h : m.run s = (.ok a, s')) : (m >>= f).run s = (f a).run s' := by
  rw [run_bind, h]

/-- A computation that gives a result has given one to what goes on from it. -/
theorem exists_of_run_bind {m : Exec σ α} {f : α → Exec σ β} {s s' : σ} {b : β}
    (h : (m >>= f).run s = (.ok b, s')) :
    ∃ a u, m.run s = (.ok a, u) ∧ (f a).run u = (.ok b, s') := by
  rw [run_bind] at h
  rcases hm : m.run s with ⟨stop | a, u⟩
  · rw [hm] at h
    cases h
  · rw [hm] at h
    exact ⟨a, u, rfl, h⟩

theorem run_get_bind (f : σ → Exec σ β) (s : σ) : (get >>= f : Exec σ β).run s = (f s).run s := rfl

theorem run_modifyGet (f : σ → α × σ) (s : σ) :
    (modifyGet f : Exec σ α).run s = (.ok (f s).1, (f s).2) := rfl

/-- What a computation gave whose panics are caught. -/
theorem run_of_catchPanic {m : Exec σ α} {a : α} {s s' : σ}
    (h : m.catchPanic.run s = (.ok (.ok a), s')) : m.run s = (.ok a, s') := by
  rw [run_catchPanic] at h
  rcases hm : m.run s with ⟨(_ | _) | _, _⟩
  · rw [hm] at h
    cases h
  · rw [hm] at h
    cases h
  · rw [hm] at h
    cases h
    rfl

/-- What stops a computation whose panics are caught is no panic. -/
theorem eq_exhausted_of_catchPanic {m : Exec σ α} {stop : Stop} {s s' : σ}
    (h : m.catchPanic.run s = (.error stop, s')) : stop = .exhausted := by
  rw [run_catchPanic] at h
  rcases hm : m.run s with ⟨(_ | _) | _, _⟩
  · rw [hm] at h
    cases h
  · rw [hm] at h
    cases h
    rfl
  · rw [hm] at h
    cases h

/-- However a computation ends, it ends in a state with a property if it starts in one. -/
def Keeps (P : σ → Prop) (m : Exec σ α) : Prop :=
  ∀ s, P s → P (m.run s).2

namespace Keeps

theorem pure (a : α) : Keeps P (Pure.pure a : Exec σ α) :=
  fun _ h => h

theorem panic (payload : Payload) : Keeps P (Exec.panic payload : Exec σ α) :=
  fun _ h => h

theorem exhausted : Keeps P (Exec.exhausted : Exec σ α) :=
  fun _ h => h

theorem get : Keeps P (MonadState.get : Exec σ σ) :=
  fun _ h => h

/-- A computation and one that goes on from its result. -/
theorem bind {m : Exec σ α} {f : α → Exec σ β} (hm : Keeps P m) (hf : ∀ a, Keeps P (f a)) :
    Keeps P (m >>= f) := by
  intro s hs
  have h : P (m.run s).2 := hm s hs
  rw [run_bind]
  generalize m.run s = r at h ⊢
  obtain ⟨_ | a, s'⟩ := r
  · exact h
  · exact hf a s' h

/-- A computation that goes on from the state. -/
theorem bind_get {f : σ → Exec σ β} (hf : ∀ s, P s → P ((f s).run s).2) :
    Keeps P (MonadState.get >>= f) := by
  intro s hs
  exact hf s hs

theorem modify {f : σ → σ} (hf : ∀ s, P s → P (f s)) :
    Keeps P (modify f : Exec σ PUnit) :=
  fun s hs => hf s hs

theorem modifyGet {f : σ → α × σ} (hf : ∀ s, P s → P (f s).2) :
    Keeps P (modifyGet f : Exec σ α) :=
  fun s hs => hf s hs

theorem catchPanic {m : Exec σ α} (hm : Keeps P m) : Keeps P m.catchPanic := by
  intro s hs
  have h : P (m.run s).2 := hm s hs
  rw [run_catchPanic]
  generalize m.run s = r at h ⊢
  obtain ⟨(_ | _) | _, s'⟩ := r <;> exact h

theorem andFinally {m : Exec σ α} {after : Exec σ Unit} (hm : Keeps P m)
    (ha : Keeps P after) : Keeps P (m.andFinally after) := by
  refine bind hm.catchPanic fun r => ?_
  cases r with
  | ok a => exact bind ha fun _ => pure a
  | error payload => exact bind ha fun _ => panic payload

theorem mapM {f : α → Exec σ β} (hf : ∀ a, Keeps P (f a)) (l : List α) :
    Keeps P (l.mapM f) := by
  induction l with
  | nil => exact pure []
  | cons a rest ih =>
    rw [List.mapM_cons]
    exact bind (hf a) fun _ => bind ih fun _ => pure _

end Keeps
end Exec

theorem Quiet.run_bind {ι α β : Type} (q : Quiet ι α) (f : α → Quiet ι β) (d : DescriptorPool)
    (o : ι) :
    ReaderT.run (q >>= f) d o = ReaderT.run (f (ReaderT.run q d o).1) d (ReaderT.run q d o).2 := rfl

namespace World

variable {ι : Type} (w : World ι) (id : Ident)

theorem run_drawLambdaId :
    (drawLambdaId : Exec (World ι) Ident).run w =
      (.ok w.lambdaIds.next.1, { w with lambdaIds := w.lambdaIds.next.2 }) := rfl

theorem run_register (shape : Shape) (call : Closure) :
    (register id shape call : Exec (World ι) _).run w =
      match w.registry.insert id shape call with
      | .ok registry => (.ok (.ok ()), { w with registry })
      | .error e => (.ok (.error e), w) := by
  rw [register, Exec.run_modifyGet]
  cases w.registry.insert id shape call <;> rfl

theorem run_acquireDescriptor :
    (acquireDescriptor id : Exec (World ι) Nat).run w =
      (.ok (w.descriptors.acquire id).1,
        { w with descriptors := (w.descriptors.acquire id).2 }) := rfl

end World

namespace Script.Eval

variable {δ α β : Type} {P : World (Outside δ) → Prop}

/-- However a computation of a script ends, it ends in a state with a property if it starts in
one. -/
def Keeps (P : World (Outside δ) → Prop) (m : Eval δ α) : Prop :=
  Exec.Keeps P m.run

namespace Keeps

theorem pure (a : α) : Keeps P (Pure.pure a : Eval δ α) :=
  Exec.Keeps.pure _

theorem throw (e : Fault) : Keeps P (throw e : Eval δ α) :=
  Exec.Keeps.pure _

theorem ofExec {m : Exec (World (Outside δ)) α} (hm : Exec.Keeps P m) : Keeps P (ofExec m) :=
  Exec.Keeps.bind hm fun _ => Exec.Keeps.pure _

/-- A computation and one that goes on from its result. -/
theorem bind {m : Eval δ α} {f : α → Eval δ β} (hm : Keeps P m) (hf : ∀ a, Keeps P (f a)) :
    Keeps P (m >>= f) := by
  refine Exec.Keeps.bind hm fun r => ?_
  cases r with
  | ok a => exact hf a
  | error e => exact Exec.Keeps.pure _

theorem mapM {f : α → Eval δ β} (hf : ∀ a, Keeps P (f a)) (l : List α) :
    Keeps P (l.mapM f) := by
  induction l with
  | nil => exact pure []
  | cons a rest ih =>
    rw [List.mapM_cons]
    exact bind (hf a) fun _ => bind ih fun _ => pure _

end Keeps

end Script.Eval

/-- The operations of an interpreter are events, and running source keeps a property. Putting the
buffer for output in place runs no code that could open or close a context. -/
structure Interpreter.Keeps (P : Session → Prop) (I : Interpreter Bench.Outside) : Prop where
  calm : I.Calm
  runString : ∀ source mode scope, Exec.Keeps P (I.runString source mode scope)
  runSimple : ∀ source, Exec.Keeps P (I.runSimple source)
  installs : ∀ (c : Array Bool) mode scope,
    Exec.Keeps (fun w => w.capturing = c) (I.runString Capture.source mode scope)

namespace Session

/-- A property that is kept by events in the store, unless they raise errors or write text where
that may not happen. -/
structure Steady (raises writes : Prop) (P : Session → Prop) : Prop where
  emit : ∀ {w : Session} {o : Bench.Outside} {es : List Script.Event},
    (∀ e ∈ es, e.Permitted raises writes) → o.store = w.outside.store.after es →
    o.rest.desk = w.outside.rest.desk → P w → P { w with outside := o }

namespace Steady

variable {raises writes : Prop} {P : Session → Prop} {α : Type}

/-- An operation that is a list of events keeps what is steady. -/
theorem quiet (hP : Steady raises writes P) {q : Quiet Bench.Outside α}
    (hq : Script.Emits raises writes q) : Exec.Keeps P q.run := by
  intro w hw
  obtain ⟨es, he, hes, hdesk⟩ := hq w.descriptors w.outside
  rw [Quiet.run_run]
  exact hP.emit he hes hdesk hw

/-- What is kept by all events is kept by those that are permitted. -/
theorem calm (hP : Steady True True P) : Steady raises writes P where
  emit _ hes hdesk hw := hP.emit (fun _ _ => ⟨fun _ => trivial, fun _ => trivial⟩) hes hdesk hw

/-- What is captured is no matter of the store. -/
theorem capturing (c : Array Bool) : Steady raises writes (fun w => w.capturing = c) where
  emit _ _ _ hw := hw

end Steady

end Session

namespace Session.Abiding

variable {direct : Prop} {P : Session → Prop} {α : Type}

/-- What lasts is kept by events in the store. -/
theorem steady (hP : Abiding direct P) : Steady True True P where
  emit {w o es} _ hes hdesk hw := by
    have hleads : w.outside.store.Leads o.store := ⟨es, hes⟩
    exact hP.change (.outside hleads.grows) (.of_leads hleads rfl) rfl (.of_eq rfl hdesk rfl) hw

/-- An operation that is a list of events keeps what lasts. -/
theorem quiet (hP : Abiding direct P) {q : Quiet Bench.Outside α}
    (hq : Script.Emits True True q) : Exec.Keeps P q.run :=
  hP.steady.quiet hq

theorem register (hP : Abiding direct P) (hd : direct) (id : Ident) (shape : Shape)
    (call : Closure) :
    Exec.Keeps P (World.register id shape call : Exec Session _) := by
  intro w hw
  rw [World.run_register]
  cases hr : w.registry.insert id shape call with
  | ok registry =>
    have hcall : call.Obeys direct := fun args => (call args).obeys_of_direct hd
    exact hP.change (.registered hd hcall hr) (.of_eq rfl rfl) rfl (.of_eq rfl rfl rfl) hw
  | error e => exact hw

theorem unregister (hP : Abiding direct P) (hd : direct) (id : Ident) :
    Exec.Keeps P (World.unregister id : Exec Session Bool) :=
  fun _ hw => hP.change (.unregistered hd id) (.of_eq rfl rfl) rfl (.of_eq rfl rfl rfl) hw

theorem acquireDescriptor (hP : Abiding direct P) (hd : direct) (id : Ident) :
    Exec.Keeps P (World.acquireDescriptor id : Exec Session Nat) :=
  fun _ hw => hP.change (.taken hd id) (.of_eq rfl rfl) rfl (.of_eq rfl rfl rfl) hw

theorem releaseDescriptor (hP : Abiding direct P) (hd : direct) (n : Nat) :
    Exec.Keeps P (World.releaseDescriptor n : Exec Session Unit) :=
  fun _ hw => hP.change (.given hd n) (.of_eq rfl rfl) rfl (.of_eq rfl rfl rfl) hw

end Session.Abiding

end ClosureBridge
