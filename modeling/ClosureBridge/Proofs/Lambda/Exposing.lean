import ClosureBridge.Proofs.Lambda.Invariant
import ClosureBridge.Proofs.Session.Bench
import ClosureBridge.Proofs.Session.Exposure

/-!
# How exposing a closure ends, and releasing a lambda

A closure that is exposed goes through several stages, any of which may fail. Only the last makes a
lambda of it: the next one, which is unreleased. A release goes through its stages once, and does
nothing after that.

## Main definitions

* `Lambda.Created`: the ways in which exposing a closure can end.
* `Lambda.Exposed`: what a successful exposure leaves.

## Main statements

* `Lambda.created_create`: exposing a closure ends in one of these ways.
* `Perform.exposed_expose`: whichever way a closure is exposed, this is what success leaves.
* `Lambda.run_release`, `Lambda.run_release_of_released`: what a release does.
* `Lambda.run_withRelease`: how a computation with a lambda in scope ends.
-/

namespace ClosureBridge

namespace Lambda

open Exec (run_bind run_bind_of_ok)

variable {ι : Type} {machine : MachineId → Interpreter ι} {m : MachineId} {id : Ident}
  {shape : Shape} {call : Closure} {w v : World ι} {i : Nat}

/-- The ways in which exposing a closure can end. -/
inductive Created (m : MachineId) (id : Ident) (shape : Shape) (call : Closure) (w : World ι) :
    Except LambdaError Nat → World ι → Prop where
  /-- No text object is built for the identifier. -/
  | unnamed {e : LambdaError} (o : ι) (he : ∀ other, e ≠ .duplicateIdentifier other) :
    Created m id shape call w (.error e) { w with outside := o }
  /-- The identifier is registered already. -/
  | refused (o : ι) (h : w.registry.contains id = true) :
    Created m id shape call w (.error (.duplicateIdentifier id)) { w with outside := o }
  /-- No callable is built, and the registration is undone. -/
  | abandoned {registry : Registry Closure} (o : ι)
    (hr : w.registry.insert id shape call = .ok registry) :
    Created m id shape call w (.error (.callableConstruction id)) { w with
      registry := (registry.remove id).2
      descriptors := (w.descriptors.acquire id).2.release (w.descriptors.acquire id).1
      outside := o }
  /-- The closure is exposed. -/
  | exposed {registry : Registry Closure} (callable : Ref) (o : ι)
    (hr : w.registry.insert id shape call = .ok registry) :
    Created m id shape call w (.ok w.lambdas.size) { w with
      registry
      descriptors := (w.descriptors.acquire id).2
      lambdas := w.lambdas.push
        ⟨id, shape, call, m, callable, some (w.descriptors.acquire id).1⟩
      outside := o }

/-- The stages that follow the registration end in an exposure or undo the registration. -/
theorem created_buildCallable (machine : MachineId → Interpreter ι) {registry : Registry Closure}
    (hr : w.registry.insert id shape call = .ok registry) (self : Ref) (o : ι) :
    ∃ r v, (buildCallable (machine m) m id shape call self).run
        { w with registry, outside := o } = (.ok r, v) ∧ Created m id shape call w r v := by
  rw [buildCallable, run_bind_of_ok (World.run_acquireDescriptor _ id),
    run_bind_of_ok (Quiet.run_run _ _), run_bind_of_ok (Quiet.run_run _ _)]
  cases (ReaderT.run ((machine m).newCallable (w.descriptors.acquire id).1 self)
    (w.descriptors.acquire id).2 o).1 with
  | none => exact ⟨_, _, rfl, .abandoned _ hr⟩
  | some callable => exact ⟨_, _, rfl, .exposed callable _ hr⟩

/-- Exposing a closure ends in one of the ways it can end. -/
theorem created_create (machine : MachineId → Interpreter ι) (m : MachineId) (id : Ident)
    (shape : Shape) (call : Closure) (w : World ι) :
    ∃ r v, (create machine m id shape call).run w = (.ok r, v) ∧
      Created m id shape call w r v := by
  rw [create_eq, run_bind_of_ok (Quiet.run_run _ _)]
  obtain e | _ | self := (ReaderT.run ((machine m).newText id.crossing) w.descriptors w.outside).1
  · exact ⟨_, _, rfl, .unnamed _ (by simp)⟩
  · exact ⟨_, _, rfl, .unnamed _ (by simp)⟩
  · dsimp only
    rw [run_bind, World.run_register]
    cases hr : w.registry.insert id shape call with
    | ok registry => exact created_buildCallable machine hr self _
    | error e =>
      cases hid : w.registry.contains id with
      | true =>
        rw [Registry.insert_of_contains hid, Except.error.injEq] at hr
        subst hr
        exact ⟨_, _, rfl, .refused _ hid⟩
      | false =>
        rw [Registry.insert, if_neg (by simp [hid])] at hr
        split at hr <;> cases hr

/-- No identifier is drawn when no interpreter is bound. -/
theorem run_expose_of_unbound (machine : MachineId → Interpreter ι) (hb : w.bound = none)
    (shape : Shape) (call : Closure) :
    (expose machine shape call).run w = (.ok (.error (.bind .notBound)), w) := by
  rw [expose, Dispatch.current, bind_assoc, Exec.run_get_bind, hb]
  rfl

/-- A closure is exposed under the identifier that is drawn for it. -/
theorem run_expose_of_bound (machine : MachineId → Interpreter ι) (hb : w.bound = some m)
    (shape : Shape) (call : Closure) :
    (expose machine shape call).run w =
      (create machine m w.lambdaIds.next.1 shape call).run
        { w with lambdaIds := w.lambdaIds.next.2 } := by
  have hcurrent : (Dispatch.current : Exec (World ι) _).run w = (.ok (.ok m), w) := by
    rw [Dispatch.current, Exec.run_get_bind, hb]
    rfl
  rw [expose, run_bind_of_ok hcurrent]
  exact run_bind_of_ok (World.run_drawLambdaId w)

/-- A closure that has been exposed is that of a new lambda, which is unreleased. -/
structure Exposed (shape : Shape) (call : Closure) (w : World ι) (i : Nat) (v : World ι) :
    Prop where
  fresh : i = w.lambdas.size
  exposed : ∃ l, Unreleased v.lambdas i l ∧ l.shape = shape ∧ l.call = call

theorem exposed_create (h : (create machine m id shape call).run w = (.ok (.ok i), v)) :
    Exposed shape call w i v := by
  obtain ⟨r, u, hrun, hu⟩ := created_create machine m id shape call w
  cases hrun.symm.trans h
  cases hu with
  | exposed callable o hr =>
    exact ⟨rfl, _, ⟨Array.getElem?_push_size, rfl⟩, rfl, rfl⟩

theorem exposed_expose (h : (expose machine shape call).run w = (.ok (.ok i), v)) :
    Exposed shape call w i v := by
  cases hb : w.bound with
  | none => cases (run_expose_of_unbound machine hb shape call).symm.trans h
  | some m =>
    have hcreated := exposed_create ((run_expose_of_bound machine hb shape call).symm.trans h)
    exact ⟨hcreated.fresh, hcreated.exposed⟩

theorem exposed_exposeAs {text : String}
    (h : (exposeAs machine text shape call).run w = (.ok (.ok i), v)) :
    Exposed shape call w i v := by
  unfold exposeAs at h
  split at h
  · cases h
  · rw [Dispatch.current, bind_assoc, Exec.run_get_bind] at h
    cases hb : w.bound with
    | none =>
      rw [hb] at h
      cases h
    | some m =>
      rw [hb] at h
      exact exposed_create h

/-! ### Releasing -/

/-- What a release does to a lambda that has not been released. -/
theorem run_release (machine : MachineId → Interpreter ι) {n d : Nat} {l : Lambda}
    (hl : w.lambdas[n]? = some l) (hd : l.descriptor = some d) :
    (release machine n).run w = (.ok true, { w with
      registry := (w.registry.remove l.id).2
      descriptors := w.descriptors.release d
      lambdas := w.lambdas.setIfInBounds n { l with descriptor := none }
      outside := (ReaderT.run ((machine l.machine).decref l.callable)
        (w.descriptors.release d) w.outside).2 }) := by
  rw [release, Exec.run_get_bind, hl]
  dsimp only
  rw [hd]
  rfl

/-- A release does nothing to any other. -/
theorem run_release_of_released (machine : MachineId → Interpreter ι) {n : Nat}
    (h : ∀ l, ¬Unreleased w.lambdas n l) :
    (release machine n).run w = (.ok false, w) := by
  rw [release, Exec.run_get_bind]
  cases hl : w.lambdas[n]? with
  | none => rfl
  | some l =>
    dsimp only
    cases hd : l.descriptor with
    | none => rfl
    | some d => exact absurd ⟨hl, by rw [hd]; rfl⟩ (h l)

/-- A release always comes to an end. -/
theorem exists_run_release (machine : MachineId → Interpreter ι) (n : Nat) (w : World ι) :
    ∃ b, (release machine n).run w = (.ok b, ((release machine n).run w).2) := by
  by_cases hn : ∃ l, Unreleased w.lambdas n l
  · obtain ⟨l, hl, hd⟩ := hn
    obtain ⟨d, hd⟩ := Option.isSome_iff_exists.mp hd
    exact ⟨true, by rw [run_release machine hl hd]⟩
  · exact ⟨false, by rw [run_release_of_released machine (not_exists.mp hn)]⟩

/-- A computation with a lambda in scope ends as it does without, and the lambda is released in the
state that it leaves. -/
theorem run_withRelease {α : Type} (machine : MachineId → Interpreter ι) (n : Nat)
    {body : Exec (World ι) α} (h : (body.run w).1 ≠ .error .exhausted) :
    (withRelease machine n body).run w =
      ((body.run w).1, ((release machine n).run (body.run w).2).2) := by
  obtain ⟨b, hb⟩ := exists_run_release machine n (body.run w).2
  rw [withRelease, Exec.andFinally, run_bind, Exec.run_catchPanic]
  generalize body.run w = ended at h hb ⊢
  obtain ⟨(_ | _) | _, v⟩ := ended
  · dsimp only
    rw [bind_assoc, run_bind_of_ok hb]
    rfl
  · exact absurd rfl h
  · dsimp only
    rw [bind_assoc, run_bind_of_ok hb]
    rfl

/-- There is no release after a computation that nests too deep. -/
theorem run_withRelease_of_exhausted {α : Type} (machine : MachineId → Interpreter ι) (n : Nat)
    {body : Exec (World ι) α} (h : (body.run w).1 = .error .exhausted) :
    (withRelease machine n body).run w = body.run w := by
  rw [withRelease, Exec.andFinally, run_bind, Exec.run_catchPanic]
  generalize body.run w = ended at h ⊢
  obtain ⟨_, v⟩ := ended
  cases h
  rfl

end Lambda

/-- Naming an interpreter changes nothing. -/
theorem Bench.eq_of_run_machineNamed {name : String} {m : MachineId} {w v : Session}
    (h : (machineNamed name).run w = (.ok m, v)) : v = w := by
  have hkept : Exec.Keeps (· = w) (machineNamed name) := Session.Lasting.machineNamed name
  simpa only [h] using hkept w rfl

/-- Exposing a closure keeps what abides, whichever way it is made. -/
theorem Session.Abiding.exposure {direct : Prop} {P : Session → Prop} (hP : Abiding direct P)
    {r : Recursion} (how : Exposure) (shape : Shape) {call : Closure}
    (hcall : call.Obeys direct) : Exec.Keeps P (Perform.expose r how shape call) := by
  cases how with
  | fresh => exact hP.expose hcall
  | withId id => exact hP.exposeAs _ hcall
  | untyped => exact hP.exposeUntyped hcall
  | inMachine name =>
    exact .bind (Lasting.machineNamed _) fun m => hP.createFresh m hcall

/-- What a successful exposure leaves, whichever way it is made. -/
theorem Perform.exposed_expose {r : Recursion} {how : Exposure} {shape : Shape} {call : Closure}
    {w v : Session} {i : Nat}
    (h : (Perform.expose r how shape call).run w = (.ok (.ok i), v)) :
    Lambda.Exposed shape call w i v := by
  cases how with
  | fresh => exact Lambda.exposed_expose h
  | withId id => exact Lambda.exposed_exposeAs h
  | untyped =>
    change (if shape.isSupported then Lambda.expose r.machine shape call
      else return .error (.unsupportedShape shape) : Exec Session _).run w = _ at h
    split at h
    · exact Lambda.exposed_expose h
    · cases h
  | inMachine name =>
    obtain ⟨m, u, hm, hcreate⟩ := Exec.exists_of_run_bind h
    obtain rfl := Bench.eq_of_run_machineNamed hm
    rw [Exec.run_bind_of_ok (World.run_drawLambdaId u)] at hcreate
    have hcreated := Lambda.exposed_create hcreate
    exact ⟨hcreated.fresh, hcreated.exposed⟩

end ClosureBridge
