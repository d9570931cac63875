import ClosureBridge.Proofs.Lambda.Exposing
import ClosureBridge.Proofs.Session.Scripts

/-!
# Every run is made of changes

Whatever step host code takes on a bench, it keeps every lasting property that the calls inside it
keep, and so does every program. A stable property is kept by every call of an object as well, with
any number of levels of nesting left. What is reached from a state by changes is such a property, so
every run is made of changes.

## Main definitions

* `Recursion.Keeps`: calls of objects, of closures that obey and of the router keep a property.

## Main statements

* `Session.Lasting.program`, `Session.Lasting.step`: programs and steps keep what lasts.
* `Session.Stable.level`: calls inside them keep what is stable.
-/

namespace ClosureBridge

/-- Calls of objects keep a property, and so do calls of closures that obey and calls of the
router. -/
structure Recursion.Keeps (direct : Prop) (P : Session → Prop) (r : Recursion) : Prop where
  call : ∀ m f args, Script.Eval.Keeps P (r.call m f args)
  host : ∀ p : Program .value, p.Obeys direct → Exec.Keeps P (r.host p)
  enter : ∀ self args, Exec.Keeps P (r.enter self args)

namespace Session

namespace Lasting

open Exec (Keeps)

variable {direct : Prop} {P : Session → Prop} {r : Recursion}

/-! ### Steps that carry no code of the host -/

section

variable (hP : Lasting direct P) (hr : r.Keeps direct P)
include hP

theorem keepBound (name : String) : Keeps P (Perform.keepBound name) := by
  unfold Perform.keepBound
  refine Keeps.bind .get fun w => ?_
  split
  · exact .bind (hP.keepMachine _ _) fun _ => .pure _
  · exact .pure _

omit hP in
theorem withImage (path : String) (shelf : Shelf) {f : Image → Exec Session Answer}
    (hf : ∀ image, Keeps P (f image)) : Keeps P (Perform.withImage path shelf f) := by
  unfold Perform.withImage
  split
  · exact .pure _
  · exact hf _

include hr

theorem interpreter (m : MachineId) : (r.machine m).Keeps P :=
  hP.machine hr.call m

theorem runtime (request : RuntimeRequest) : Keeps P (Perform.runtime r request) := by
  cases request with
  | make name textConstructor =>
    exact .bind (hP.quiet (.addMachine _)) fun _ => .bind (hP.keepMachine _ _) fun _ => .pure _
  | install name =>
    exact .bind (machineNamed _) fun _ => .bind (hP.bindMachine _) fun _ => .pure _
  | isBound => exact .bind isBound fun _ => .pure _
  | current =>
    exact .bind current fun _ => ofExcept (fun _ => .bind (.bind getDesk fun _ => .pure _)
      fun _ => .pure _) _
  | load name library environment autoStart shelf =>
    exact .bind (hP.load (hP.interpreter hr) hP.resolveImage _ _ _) fun _ =>
      ofExcept (fun _ => hP.keepBound _) _
  | bind name path shelf =>
    exact withImage _ _ fun _ => .bind (hP.ofImage hP.resolveImage _) fun _ =>
      ofExcept (fun _ => hP.keepBound _) _
  | resolve name path shelf =>
    refine withImage _ _ fun image => Keeps.bind (hP.resolveImage _) fun m => ?_
    split
    · exact .pure _
    · exact .bind (hP.keepMachine _ _) fun _ => .pure _
  | begin name config date environment shelf =>
    refine Keeps.bind (hP.begin (hP.interpreter hr) hP.resolveImage _ _ _ _) fun c => ?_
    split
    · exact .pure _
    · exact .bind (hP.keepContext _ _) fun _ => .bind (Context.keeps_isCapturing _) fun _ => .pure _

theorem openContext (kind : ContextKind) (name : String) :
    Keeps P (Perform.openContext r kind name) := by
  cases kind with
  | main => exact hP.main (hP.interpreter hr)
  | ofMachine => exact .bind (machineNamed _) fun _ => hP.ofMachine (hP.interpreter hr) _
  | isolated => exact .bind (machineNamed _) fun _ => hP.isolated (hP.interpreter hr) _

theorem inContext (c : Context) (request : ContextRequest) :
    Keeps P (Perform.inContext r c request) := by
  have hI : (r.machine c.machine).Keeps P := hP.interpreter hr _
  cases request with
  | «open» kind machine showErrors marker => exact .pure _
  | describe => exact .bind (c.keeps_isCapturing) fun _ => .pure _
  | errorOccurred => exact .bind (hP.quiet hI.calm.errorOccurred) fun _ => .pure _
  | execute source mode showErrors =>
    exact .bind ((hP.operations hI c).execute _ _ _) fun _ => hP.ofObject _
  | run source mode => exact .bind ((hP.operations hI c).execute _ _ _) fun _ => hP.ofObject _
  | compiles source mode => exact .bind ((hP.operations hI c).compiles _ _) fun _ => .pure _
  | runSimple source => exact .bind (runSimple hI _) fun _ => .pure _
  | setGlobal name value =>
    exact .bind (hP.object _) fun _ => .bind (hP.steady.setGlobal hI.calm c _ _) fun _ => .pure _
  | getGlobal name => exact .bind ((hP.operations hI c).getGlobal _) fun _ => hP.ofObject _
  | getAttr target name =>
    exact .bind (hP.object _) fun _ => .bind (hP.steady.getAttr hI.calm _ _) fun _ => hP.ofObject _
  | setAttr target name value =>
    exact .bind (hP.object _) fun _ => .bind (hP.object _) fun _ =>
      .bind (hP.steady.setAttr hI.calm _ _ _) fun _ => .pure _
  | strOf target =>
    exact .bind (hP.object _) fun _ => .bind ((hP.operations hI c).strOf _) fun _ => .pure _
  | reprOf target =>
    exact .bind (hP.object _) fun _ => .bind ((hP.operations hI c).reprOf _) fun _ => .pure _
  | discard target =>
    exact .bind (hP.object _) fun _ => .bind ((hP.operations hI c).discard _) fun _ => .pure _
  | capture => exact .bind ((hP.operations hI c).start) fun _ => .pure _
  | isCapturing => exact .bind (c.keeps_isCapturing) fun _ => .pure _
  | drain => exact .bind ((hP.operations hI c).drain) fun _ => .pure _
  | allOutput => exact .bind ((hP.operations hI c).all) fun _ => .pure _

theorem context (name : String) (request : ContextRequest) :
    Keeps P (Perform.context r name request) := by
  unfold Perform.context
  split
  · exact .bind (hP.openContext hr _ _) fun _ =>
      ofExcept (fun _ => .bind (hP.keepContext _ _) fun _ => .pure _) _
  · exact .bind (contextNamed _) fun c => hP.inContext hr c _

theorem mapObjects (n : Nat) (f : Option Ref) (items : List (Option Ref)) :
    Keeps P (Perform.mapObjects r n f items) := by
  induction items with
  | nil => exact .pure _
  | cons item rest ih =>
    exact .bind (hP.callObject hr.call _ _ _) fun _ => .bind ih fun _ => .pure _

theorem inspect (name : String) (request : InspectRequest) :
    Keeps P (Perform.inspect r name request) := by
  cases request with
  | object value => exact .bind (hP.object _) fun _ => hP.ofObject _
  | same a b => exact .bind (hP.object _) fun _ => .bind (hP.object _) fun _ => .pure _
  | pending =>
    exact .bind (scriptedNamed _) fun _ => .bind (hP.quiet (.machine _)) fun _ => .pure _
  | takeError =>
    exact .bind (scriptedNamed _) fun _ => .bind (hP.quiet (.takeFault _)) fun _ => .pure _
  | console =>
    exact .bind (scriptedNamed _) fun _ => .bind (hP.quiet (.machine _)) fun _ => .pure _
  | executed =>
    exact .bind (scriptedNamed _) fun _ => .bind (hP.quiet (.machine _)) fun _ => .pure _
  | call callable args =>
    refine Keeps.bind (scriptedNamed _) fun n => Keeps.bind (hP.object _) fun f => ?_
    split
    · exact .pure _
    · exact .bind (hP.objects _) fun _ =>
        .bind (hP.callObject hr.call _ _ _) fun _ => hP.ofObject _
  | map callable values =>
    exact .bind (scriptedNamed _) fun _ => .bind (hP.object _) fun _ =>
      .bind (hP.objects _) fun _ => .bind (hP.mapObjects hr _ _ _) fun _ =>
        .bind (hP.objectsJson _) fun _ => .pure _

theorem interface (name : String) (request : InterfaceRequest) :
    Keeps P (Perform.interface r name request) := by
  unfold Perform.interface
  refine Keeps.bind (machineNamed _) fun m => ?_
  have hI : (r.machine m).Keeps P := hP.interpreter hr m
  cases request with
  | parseTuple args format =>
    exact .bind (hP.object _) fun _ => .bind (hP.quiet (hI.calm.parseTuple _ _)) fun _ =>
      .bind (hP.unpackedJson _) fun _ => .pure _
  | buildValue value =>
    exact .bind (hP.built _) fun _ => .bind (hP.quiet (hI.calm.buildValue _)) fun _ =>
      hP.ofObject _
  | newText text =>
    exact .bind (hP.quiet (hI.calm.newText _)) fun _ => ofExcept (fun _ => hP.ofObject _) _
  | textOf target =>
    exact .bind (hP.object _) fun _ => .bind (hP.quiet (hI.calm.textOf _)) fun _ => .pure _
  | strOf target =>
    exact .bind (hP.object _) fun _ => .bind (hP.quiet (hI.calm.strOf _)) fun _ => .pure _
  | reprOf target =>
    exact .bind (hP.object _) fun _ => .bind (hP.quiet (hI.calm.reprOf _)) fun _ => .pure _
  | incref target =>
    exact .bind (hP.object _) fun _ => .bind (hP.quiet (hI.calm.incref _)) fun _ => .pure _
  | decref target =>
    exact .bind (hP.object _) fun _ => .bind (hP.quiet (hI.calm.decref _)) fun _ => .pure _
  | mainDict => exact .bind (hP.quiet hI.calm.mainDict) fun _ => hP.ofObject _
  | newDict => exact .bind (hP.quiet hI.calm.newDict) fun _ => hP.ofObject _
  | builtins => exact .bind (hP.quiet hI.calm.builtins) fun _ => hP.ofObject _
  | dictGet target key =>
    exact .bind (hP.object _) fun _ => .bind (hP.quiet (hI.calm.dictGet _ _)) fun _ =>
      hP.ofObject _
  | dictSet target key value =>
    exact .bind (hP.object _) fun _ => .bind (hP.object _) fun _ =>
      .bind (hP.quiet (hI.calm.dictSet _ _ _)) fun _ => .pure _
  | getAttr target key =>
    exact .bind (hP.object _) fun _ => .bind (hP.quiet (hI.calm.getAttr _ _)) fun _ =>
      hP.ofObject _
  | setAttr target key value =>
    exact .bind (hP.object _) fun _ => .bind (hP.object _) fun _ =>
      .bind (hP.quiet (hI.calm.setAttr _ _ _)) fun _ => .pure _
  | runString source mode scope =>
    exact .bind (hP.object _) fun _ => .bind (hI.runString _ _ _) fun _ => hP.ofObject _
  | compile source name mode =>
    exact .bind (hP.quiet (hI.calm.compile _ _ _)) fun _ => hP.ofObject _
  | runSimple source => exact .bind (hI.runSimple _) fun _ => .pure _
  | errorOccurred => exact .bind (hP.quiet hI.calm.errorOccurred) fun _ => .pure _
  | printError => exact .bind (hP.quiet (hI.calm.printError trivial)) fun _ => .pure _
  | clearError => exact .bind (hP.quiet hI.calm.clearError) fun _ => .pure _
  | raise message => exact .bind (hP.quiet (hI.calm.raiseRuntimeError _)) fun _ => .pure _
  | ensureStarted => exact .bind (hP.quiet hI.calm.ensureStarted) fun _ => .pure _

theorem marshal (name : String) (request : MarshalRequest) :
    Keeps P (Perform.marshal r name request) := by
  unfold Perform.marshal
  refine Keeps.bind (machineNamed _) fun m => ?_
  have hI : (r.machine m).Keeps P := hP.interpreter hr m
  cases request with
  | parseIn args kind =>
    exact .bind (hP.object _) fun _ => .bind (hP.parseIn hI _ _) fun _ =>
      ofExcept (fun _ => .bind (hP.argumentsJson _) fun _ => .pure _) _
  | buildOut v target =>
    exact .bind (hP.value _) fun _ => .bind (hP.buildOut hI _ _) fun _ => hP.ofObject _
  | none => exact .bind (hP.quiet (hI.calm.buildValue _)) fun _ => hP.ofObject _
  | handle target => exact .bind (hP.object _) fun _ => hP.ofObject _

theorem handle (request : HandleRequest) : Keeps P (Perform.handle r request) := by
  unfold Perform.handle
  split
  · refine Keeps.bind getDesk fun desk => ?_
    split
    · exact .pure _
    · exact .bind (hP.lambdaJson _) fun _ => .pure _
  · refine getDesk_bind fun w hw => ?_
    split
    · exact hw
    · next hn => exact Keeps.bind (hP.held hw hn).release (fun _ => .pure _) w hw
  · exact .bind getDesk fun _ => .bind (hP.dropLambda _) fun _ => .pure _
  · split
    · exact .pure _
    · next hl =>
      exact .bind (hP.keep (SourceLambda.isIdle_of_check hl)) fun _ =>
        .bind (hP.keepSource _ _) fun _ => .pure _
  · refine Keeps.bind getDesk fun desk => Keeps.bind (named _ _) fun n => ?_
    refine Keeps.bind (contextNamed _) fun c => ?_
    refine Keeps.bind (hP.resolve (hP.interpreter hr _) c n) fun result => ?_
    exact .bind (ofExcept (fun _ => hP.ofObject _) _) fun _ => .bind .get fun _ => .pure _

omit hr in
theorem acquireAll (hd : direct) (ids : List String) : Keeps P (Perform.acquireAll ids) := by
  induction ids with
  | nil => exact .pure _
  | cons id rest ih => exact .bind (hP.acquireDescriptor hd _) fun _ => .bind ih fun _ => .pure _

omit hr in
theorem releaseAll (hd : direct) (numbers : List Nat) : Keeps P (Perform.releaseAll numbers) := by
  induction numbers with
  | nil => exact .pure _
  | cons n rest ih => exact .bind (hP.releaseDescriptor hd _) fun _ => ih

theorem registry {request : RegistryRequest} (ho : request.Obeys direct) :
    Keeps P (Perform.registry r request) := by
  unfold Perform.registry
  split
  · exact .bind (hP.unregister ho _) fun _ => .pure _
  · exact .bind .get fun _ => .pure _
  · exact .bind .get fun _ => .pure _
  · exact .bind .get fun _ => .pure _
  · refine Keeps.bind (hP.arguments _) fun args => Keeps.bind_get fun w hw => ?_
    split
    · exact hw
    · next shape call hget =>
      have hcall : call.Obeys direct := hP.closures hw _ _ _ hget
      exact Keeps.bind (hr.host _ (hcall args))
        (fun _ => .bind (hP.valueJson _) fun _ => .pure _) w hw
  · exact .bind .get fun _ => .pure _
  · exact .bind .get fun _ => .pure _
  · exact .bind (hP.object _) fun _ => .bind (hP.object _) fun _ =>
      .bind (hr.enter _ _) fun _ => hP.ofObject _
  · exact .bind (hP.acquireAll ho _) fun _ => .bind .get fun _ =>
      .bind (hP.releaseAll ho _) fun _ => .bind .get fun _ => .pure _

/-! ### Steps that carry code of the host -/

omit hr in
/-- Exposing a closure keeps what lasts. Where it succeeds it has made the next lambda. -/
theorem exposure_bind (how : Exposure) (shape : Shape) {call : Closure} (hcall : call.Obeys direct)
    {f : Except LambdaError Nat → Exec Session Answer} (herror : ∀ e, Keeps P (f (.error e)))
    (hok : ∀ w v, P w → P v → Spares w v → w.lambdas.size < v.lambdas.size →
      P ((f (.ok w.lambdas.size)).run v).2) :
    Keeps P (Perform.expose r how shape call >>= f) := by
  intro w hw
  have hv := hP.exposure how shape (r := r) hcall w hw
  have hspares := (abiding_spares w).exposure how shape (r := r) hcall w (.refl w)
  rw [Exec.run_bind]
  rcases hrun : (Perform.expose r how shape call).run w with ⟨stop | e | n, v⟩
  · rw [hrun] at hv
    exact hv
  · rw [hrun] at hv
    exact herror e v hv
  · rw [hrun] at hv hspares
    obtain ⟨rfl, l, hl, -⟩ := Perform.exposed_expose hrun
    exact hok w v hw hv hspares (Array.getElem?_eq_some_iff.mp hl.1).1

omit hr in
theorem registration (hd : direct) (id : String) (shape : Shape) (call : Closure) :
    Keeps P (Perform.register id shape call) := by
  unfold Perform.register
  split
  · exact .pure _
  · exact .bind (hP.register hd _ _ _) fun _ => ofExcept (fun _ => .pure _) _

omit hr in
theorem withLambda {n : Nat} (hn : Outlives P n) {body : Exec Session Answer}
    (hbody : Keeps P body) : Keeps P (Perform.withLambda r n body) :=
  .bind .get fun _ => .bind (hP.keepObject _ _) fun _ => hn.withRelease hbody

theorem cell (c : Context) (source : String) (marker : Option Char)
    {handler : Option (String → String → Exec Session Directive)}
    (hh : ∀ f, handler = some f → ∀ directive argument, Keeps P (f directive argument)) :
    Keeps P (Perform.cell r c source marker handler) := by
  have hI : (r.machine c.machine).Keeps P := hP.interpreter hr _
  cases handler with
  | none => exact .bind ((hP.operations hI c).runCell _ _ fun _ _ => .pure _) fun _ => .pure _
  | some f => exact .bind ((hP.operations hI c).runCell _ _ (hh f rfl)) fun _ => .pure _

end

mutual

/-- Programs keep what lasts. -/
theorem program (hP : Lasting direct P) (hr : r.Keeps direct P) {t : Task} :
    ∀ p : Program t, p.Obeys direct → Keeps P (Run.program r p)
  | .done _, _ => .pure _
  | .panic _, _ => .panic _
  | .build _ k, h => .bind (hP.object _) fun o => program hP hr (k o) (h o)
  | .lookup id args k, h => by
    unfold Run.program
    refine Keeps.bind_get fun w hw => ?_
    split
    · exact program hP hr (k none) (h none) w hw
    · next shape call hget =>
      have hcall : call.Obeys direct := hP.closures hw _ _ _ hget
      exact Keeps.bind (hr.host _ (hcall args)) (fun v => program hP hr (k v) (h v)) w hw
  | .execute name source mode showErrors k, h => by
    unfold Run.program
    refine Keeps.bind (contextNamed _) fun c => ?_
    exact .bind ((hP.operations (hP.interpreter hr _) c).execute _ _ _) fun o =>
      program hP hr (k o) (h o)
  | .unregister _ k, h =>
    .bind (hP.unregister h.1 _) fun b => program hP hr (k b) (h.2 b)
  | .step s k, h =>
    .bind (step hP hr s h.1).catchPanic fun _ => program hP hr (k _) (h.2 _)

/-- Steps keep what lasts. -/
theorem step (hP : Lasting direct P) (hr : r.Keeps direct P) :
    ∀ s : Step, s.Obeys direct → Keeps P (Run.step r s)
  | .saving _ s, h =>
    .bind (step hP hr s h) fun _ => .bind (hP.save _ _) fun _ => .pure _
  | .runtime request, _ => hP.runtime hr request
  | .context _ request, _ => hP.context hr _ request
  | .inspect _ request, _ => hP.inspect hr _ request
  | .interface _ request, _ => hP.interface hr _ request
  | .marshal _ request, _ => hP.marshal hr _ request
  | .handle request, _ => hP.handle hr request
  | .registry _, h => hP.registry hr h
  | .expose name how shape _, h =>
    hP.exposure_bind how shape h (fun _ => .pure _) fun w v hw hv hs hlt =>
      Keeps.bind (hP.lambdaJson _) (fun _ => .pure _) _ (hP.holding name hw hv hs hlt)
  | .register _ _ _, h => hP.registration h.1 _ _ _
  | .scoped how shape _ body, h =>
    hP.exposure_bind how shape h.1 (fun _ => .pure _) fun w v hw hv _ _ =>
      hP.withLambda (hP.next hw) (.bind (program hP hr body h.2) fun _ => .pure _) v hv
  | .scopedName name body, h => by
    unfold Run.step
    refine getDesk_bind fun w hw => ?_
    split
    · exact hw
    · next hn =>
      exact Keeps.bind (hP.dropLambda name) (fun _ =>
        hP.withLambda (hP.held hw hn) (.bind (program hP hr body h) fun _ => .pure _)) w hw
  | .cell name source marker handler, h => by
    unfold Run.step
    refine Keeps.bind (contextNamed _) fun c => ?_
    cases handler with
    | none => exact hP.cell hr c _ _ (by simp)
    | some f =>
      refine hP.cell hr c _ _ ?_
      intro g hg directive argument
      obtain rfl := Option.some.inj hg
      exact program hP hr (f directive argument) (h directive argument)

end

end Lasting

namespace Stable

variable {direct : Prop} {P : Session → Prop} {r : Recursion}

/-- Calls of the router keep what is stable where calls of objects and of closures do. -/
theorem recursion (hP : Stable direct P)
    (hc : ∀ m f args, Script.Eval.Keeps P (r.call m f args))
    (hh : ∀ p : Program .value, p.Obeys direct → Exec.Keeps P (r.host p)) : r.Keeps direct P where
  call := hc
  host := hh
  enter := hP.dispatch (hP.machine hc) hh

/-- Calls keep what is stable, with any number of levels of nesting left. -/
theorem level (hP : Stable direct P) (n : Nat) : (Recursion.level n).Keeps direct P := by
  induction n with
  | zero =>
    exact hP.recursion (fun _ _ _ => Script.Eval.Keeps.ofExec .exhausted) fun _ _ => .exhausted
  | succ n ih =>
    have hs : Steady False True P := hP.steady.calm
    exact hP.recursion
      (fun m => hs.invoke (ih.call m) fun self args => hs.receive (ih.enter self args))
      fun p hp => hP.program ih p hp

end Stable

end Session

end ClosureBridge
