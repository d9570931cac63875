import ClosureBridge.Proofs.Session.Library

/-!
# Exposing a closure and releasing a lambda

Both take several stages, between which the stores of the library disagree for a while. Nothing of
the host runs between the stages, so each is one change of the state.

## Main definitions

* `Lambda.buildCallable`: the stages of exposing a closure that follow its registration.

## Main statements

* `Session.Abiding.create`: exposing a closure, however far it gets, keeps what abides.
* `Session.Outlives.release`: releasing a lambda keeps what outlives it.
-/

namespace ClosureBridge

namespace Ident

theorem crossing_of_not_mem {id : Ident} (h : '\x00' ∉ id.text.toList) : id.crossing = id.text := by
  rw [crossing, if_neg]
  simpa using h

/-- An identifier that was accepted crosses the boundary as it is. -/
theorem crossing_of_ofText? {text : String} {id : Ident} (h : ofText? text = some id) :
    id.crossing = id.text := by
  obtain ⟨rfl, hvalid⟩ := ofText?_eq_some_iff.mp h
  refine crossing_of_not_mem fun hmem => ?_
  cases hl : id.text.toList with
  | nil => simp [hl] at hmem
  | cons c rest =>
    rw [hl, isValid, Bool.and_eq_true, List.all_eq_true] at hvalid
    rw [hl, List.mem_cons] at hmem
    rcases hmem with rfl | hmem
    · exact absurd hvalid.1 (by decide)
    · exact absurd (hvalid.2 _ hmem) (by decide)

/-- A fresh identifier with the stem of lambdas crosses the boundary as it is. -/
theorem crossing_next (s : IdentSource) (h : s.stem = lambdaStem) :
    s.next.1.crossing = s.next.1.text := by
  refine crossing_of_not_mem fun hmem => ?_
  rw [IdentSource.next, h, String.toList_append, List.mem_append, Nat.toString_eq_repr,
    Nat.toList_repr] at hmem
  rcases hmem with hmem | hmem
  · exact absurd hmem (by decide)
  · exact absurd (Nat.isDigit_of_mem_toDigits (by decide) (by decide) hmem) (by decide)

end Ident

namespace Bench

variable {call : Script.Caller Bench} {n : Nat} {d : DescriptorPool} {o o' : Outside} {self : Ref}

/-- A text object that a scripted interpreter builds has the text asked for. -/
theorem object_newText {text : String}
    (h : ReaderT.run ((machine call (.scripted n)).newText text) d o = (.ok (some self), o')) :
    o'.store.heap.objects[self]? = some (.text text) := by
  change ReaderT.run (if ((o.store.machines[n]?).getD default).textConstructor then
      return .ok (← Script.Store.alloc (.text text))
    else return .error (.incompatibleVersion "PyUnicode_FromString") :
      Quiet Outside (Except BindError (Option Ref))) d o = _ at h
  split at h
  · cases h
    exact Array.getElem?_push_size
  · cases h

/-- A callable that a scripted interpreter builds has the descriptor and the object given. -/
theorem object_newCallable {descriptor : Nat} {callable : Ref}
    (h : ReaderT.run ((machine call (.scripted n)).newCallable descriptor self) d o =
      (some callable, o')) :
    o'.store.heap.objects[callable]? = some (.callable descriptor (some self)) := by
  cases h
  exact Array.getElem?_push_size

end Bench

namespace Lambda

variable {ι : Type}

/-- The stages of exposing a closure that follow its registration. -/
def buildCallable (I : Interpreter ι) (m : MachineId) (id : Ident) (shape : Shape)
    (call : Closure) (self : Ref) : Exec (World ι) (Except LambdaError Nat) := do
  let descriptor ← World.acquireDescriptor id
  let made ← (I.newCallable descriptor self).run
  (I.decref self).run
  match made with
  | none =>
    I.clearError.run
    let _ ← World.unregister id
    World.releaseDescriptor descriptor
    return .error (.callableConstruction id)
  | some callable =>
    modifyGet fun w =>
      (.ok w.lambdas.size,
        { w with lambdas := w.lambdas.push ⟨id, shape, call, m, callable, some descriptor⟩ })

theorem create_eq (machine : MachineId → Interpreter ι) (m : MachineId) (id : Ident)
    (shape : Shape) (call : Closure) :
    create machine m id shape call = (do
      match ← ((machine m).newText id.crossing).run with
      | .error e => return .error (.bind e)
      | .ok none =>
        (machine m).clearError.run
        return .error (.callableConstruction id)
      | .ok (some self) =>
        match ← World.register id shape call with
        | .error e =>
          ((machine m).decref self).run
          return .error (.ofRegistry e)
        | .ok () => buildCallable (machine m) m id shape call self) := rfl

end Lambda

namespace Session.Abiding

open Exec (Keeps run_bind run_bind_of_ok)

variable {direct : Prop} {P : Session → Prop} {rc : Script.Caller Bench} {id : Ident}
  {shape : Shape} {call : Closure} {w : Session}

/-- The stages after the registration end in an exposure or undo the registration. -/
theorem buildCallable (hP : Abiding direct P) (m : MachineId) (hcall : call.Obeys direct)
    (hw : P w) (hid : w.lambdaIds.stem = Ident.lambdaStem → id.crossing = id.text)
    {registry : Registry Closure} (hr : w.registry.insert id shape call = .ok registry) {self : Ref}
    (hself : ∀ n, m = .scripted n →
      w.outside.store.heap.objects[self]? = some (.text id.crossing)) :
    P ((Lambda.buildCallable (Bench.machine rc m) m id shape call self).run
      { w with registry }).2 := by
  have hI : (Bench.machine rc m).Calm := Bench.calm_machine rc m
  unfold Lambda.buildCallable
  rw [run_bind_of_ok (World.run_acquireDescriptor _ id), run_bind_of_ok (Quiet.run_run _ _),
    run_bind_of_ok (Quiet.run_run _ _)]
  dsimp only
  generalize hd : (w.descriptors.acquire id).2 = descriptors
  have hmade := (hI.newCallable (w.descriptors.acquire id).1 self).leads
    descriptors w.outside
  have hmadeDesk := (hI.newCallable (w.descriptors.acquire id).1 self).desk
    descriptors w.outside
  rcases hc : ReaderT.run ((Bench.machine rc m).newCallable (w.descriptors.acquire id).1 self)
    descriptors w.outside with ⟨made, o⟩
  rw [hc] at hmade hmadeDesk
  have hback := (hI.decref (some self)).leads descriptors o
  have hdesk := ((hI.decref (some self)).desk descriptors o).trans hmadeDesk
  subst hd
  cases made with
  | none =>
    have hgone := (hmade.trans hback).trans
      (hI.clearError.leads (w.descriptors.acquire id).2 _)
    have hgoneDesk := (hI.clearError.desk (w.descriptors.acquire id).2 _).trans hdesk
    exact hP.change (.abandoned hr hgone.grows) (.of_leads hgone rfl) rfl
      (.of_eq rfl hgoneDesk rfl) hw
  | some callable =>
    have hleads := hmade.trans hback
    refine hP.change (.exposed hcall hid hr hleads.grows ?_) (.of_leads hleads rfl) rfl
      (.push _ rfl hdesk rfl) hw
    rintro n rfl
    refine ⟨self, ?_, ?_⟩
    · exact hback.grows.fixed (Bench.object_newCallable hc) rfl
    · exact hleads.grows.fixed (hself n rfl) rfl

/-- Exposing a closure keeps what abides. -/
theorem create (hP : Abiding direct P) (m : MachineId) (hcall : call.Obeys direct) (hw : P w)
    (hid : w.lambdaIds.stem = Ident.lambdaStem → id.crossing = id.text) :
    P ((Lambda.create (Bench.machine rc) m id shape call).run w).2 := by
  have hI : (Bench.machine rc m).Calm := Bench.calm_machine rc m
  rw [Lambda.create_eq, run_bind_of_ok (Quiet.run_run _ _)]
  have ho := (hI.newText id.crossing).leads w.descriptors w.outside
  rcases ht : ReaderT.run ((Bench.machine rc m).newText id.crossing) w.descriptors w.outside with
    ⟨text, o⟩
  have hdesk := (hI.newText id.crossing).desk w.descriptors w.outside
  rw [ht] at ho hdesk
  have hw' : P { w with outside := o } :=
    hP.change (.outside ho.grows) (.of_leads ho rfl) rfl (.of_eq rfl hdesk rfl) hw
  obtain e | _ | self := text
  · exact hw'
  · exact (Keeps.bind (hP.quiet hI.clearError) fun _ => .pure _) _ hw'
  · dsimp only
    rw [run_bind, World.run_register]
    cases hr : w.registry.insert id shape call with
    | error e => exact (Keeps.bind (hP.quiet (hI.decref _)) fun _ => .pure _) _ hw'
    | ok registry =>
      refine hP.buildCallable m hcall hw' hid hr ?_
      rintro n rfl
      exact Bench.object_newText ht

/-- Exposing a closure under a fresh identifier keeps what abides. -/
theorem createFresh (hP : Abiding direct P) (m : MachineId) (hcall : call.Obeys direct) :
    Keeps P (World.drawLambdaId >>= fun id =>
      Lambda.create (Bench.machine rc) m id shape call) := by
  intro w hw
  have hdrawn := hP.change .lambdaDrawn (.of_eq rfl rfl) rfl (.of_eq rfl rfl rfl) hw
  rw [run_bind_of_ok (World.run_drawLambdaId w)]
  exact hP.create m hcall hdrawn (Ident.crossing_next w.lambdaIds)

theorem expose (hP : Abiding direct P) (hcall : call.Obeys direct) :
    Keeps P (Lambda.expose (Bench.machine rc) shape call) := by
  unfold Lambda.expose
  refine Keeps.bind Lasting.current fun bound => ?_
  split
  · exact .pure _
  · exact hP.createFresh _ hcall

theorem exposeAs (hP : Abiding direct P) (text : String) (hcall : call.Obeys direct) :
    Keeps P (Lambda.exposeAs (Bench.machine rc) text shape call) := by
  unfold Lambda.exposeAs
  split
  · exact .pure _
  · next id hid =>
    refine Keeps.bind Lasting.current fun bound => ?_
    split
    · exact .pure _
    · intro w hw
      exact hP.create _ hcall hw fun _ => Ident.crossing_of_ofText? hid

theorem exposeUntyped (hP : Abiding direct P) (hcall : call.Obeys direct) :
    Keeps P (Lambda.exposeUntyped (Bench.machine rc) shape call) := by
  unfold Lambda.exposeUntyped
  split
  · exact hP.expose hcall
  · exact .pure _

end Session.Abiding

namespace Session.Outlives

open Exec (Keeps)

variable {P : Session → Prop} {n : Nat} {rc : Script.Caller Bench}

/-- Releasing a lambda keeps what outlives it. -/
theorem release (hP : Outlives P n) : Keeps P (Lambda.release (Bench.machine rc) n) := by
  unfold Lambda.release
  refine Keeps.bind_get fun w hw => ?_
  split
  · next l hl =>
    split
    · next d hd =>
      have hI : (Bench.machine rc l.machine).Calm := Bench.calm_machine rc l.machine
      exact hP.released hl hd ((hI.decref _).leads (w.descriptors.release d) w.outside)
        ((hI.decref _).desk _ _) hw
    · exact hw
  · exact hw

theorem withRelease (hP : Outlives P n) {α : Type} {body : Exec Session α}
    (hbody : Keeps P body) : Keeps P (Lambda.withRelease (Bench.machine rc) n body) :=
  hbody.andFinally (.bind hP.release fun _ => .pure _)

end Session.Outlives

end ClosureBridge
