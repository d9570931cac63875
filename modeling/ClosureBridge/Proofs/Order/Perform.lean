import ClosureBridge.Proofs.Order.Bench

/-!
# Steps that carry no code of the host, in an orderly state

Every request that refers to what is there leaves an orderly state, and the object in its answer is
there, where calls of objects and of closures do the same.

## Main definitions

* `Recursion.Gives`: what calls of objects, of closures and of the router give is there.

## Main statements

* `Recursion.Gives.runtime`, `Recursion.Gives.context`, `Recursion.Gives.inspect`, …: the families
  of requests.
* `Recursion.Gives.exposure`, `Recursion.Gives.withLambda`, `Recursion.Gives.cell`: exposing a
  closure, running a computation with a lambda, and running a cell.
-/

namespace ClosureBridge

/-- Calls of objects, of closures and of the router give what is there. -/
structure Recursion.Gives (r : Recursion) : Prop where
  call : r.call.Gives
  host : ∀ {n : Nat} {p : Program .value}, p.Within n →
    Exec.Gives n HostValue.Within (r.host p)
  enter : ∀ {n : Nat} self args, Exec.Gives n RefWithin (r.enter self args)

variable {n : Nat}

theorem Answer.within_ofError (e : Error) : (Answer.ofError e).Within n := by
  unfold Answer.ofError
  dsimp only
  split <;> exact refWithin_none

namespace Exec.Gives

theorem keepBound (name : String) : Gives n Answer.Within (Perform.keepBound name) := by
  unfold Perform.keepBound
  refine bind_get fun w hw hn => ?_
  split
  · next m hm =>
    have hm : m.Within w.extent := hw.bound m hm
    exact bind (keepMachine name hm) (fun _ _ _ _ => plain _) w hw (Nat.le_refl _)
  · exact plain _ w hw hn

theorem namesOf (m : MachineId) : Gives n Untold (Perform.namesOf m) :=
  bind getDesk fun _ _ _ _ => pure_untold _

/-- No image of an idle shelf has an interpreter in it. -/
theorem withImage (path : String) {shelf : Shelf} (hshelf : shelf.IsIdle)
    {f : Image → Exec Session Answer}
    (hf : ∀ image, (∃ e, Native.Symbols.resolve image = .error e) →
      Gives n Answer.Within (f image)) :
    Gives n Answer.Within (Perform.withImage path shelf f) := by
  unfold Perform.withImage
  split
  · exact plain _
  · next image himage => exact hf image (hshelf.path himage)

theorem acquireAll (ids : List String) : Gives n Untold (Perform.acquireAll ids) := by
  induction ids with
  | nil => exact pure_untold _
  | cons id rest ih =>
    exact bind (acquireDescriptor _) fun _ hk _ _ => bind (ih.mono hk) fun _ _ _ _ => pure_untold _

theorem releaseAll (numbers : List Nat) : Gives n Untold (Perform.releaseAll numbers) := by
  induction numbers with
  | nil => exact pure_untold _
  | cons i rest ih => exact bind (releaseDescriptor i) fun _ hk _ _ => ih.mono hk

end Exec.Gives

namespace Recursion.Gives

open Exec.Gives

variable {r : Recursion} (hr : r.Gives)
include hr

theorem interpreter {m : MachineId} (hm : m.Within n) : (r.machine m).Gives :=
  Bench.gives_machine hr.call hm

theorem runtime {request : RuntimeRequest} (h : request.IsScripted) :
    Exec.Gives n Answer.Within (Perform.runtime r request) := by
  cases request with
  | make name textConstructor =>
    exact bind (quiet (.addMachine textConstructor)) fun _ _ i hpos =>
      bind (keepMachine name (m := .scripted i) hpos) fun _ _ _ _ => plain _
  | install name =>
    exact bind (machineNamed name) fun _ _ _ hm => bind (bindMachine hm) fun _ _ _ _ => plain _
  | isBound => exact bind isBound fun _ _ _ _ => plain _
  | current =>
    exact bind current fun _ _ _ hm => ofExcept hm fun m _ =>
      bind (namesOf m) fun _ _ _ _ => plain _
  | load name library environment autoStart shelf =>
    exact bind (load hr.call _ environment h) fun _ _ _ hm => ofExcept hm fun _ _ => keepBound name
  | bind name path shelf =>
    exact withImage path h fun image himage => bind (ofImage himage) fun _ _ _ _ =>
      ofExcept (Q := Untold) (fun _ _ => trivial) fun _ _ => keepBound name
  | resolve name path shelf =>
    refine withImage path h fun image himage => bind (resolveImage himage) fun _ _ m hm => ?_
    split
    · exact plain _
    · next m => exact bind (keepMachine name (hm m rfl)) fun _ _ _ _ => plain _
  | begin name config date environment shelf =>
    refine bind (begin hr.call config date environment h) fun _ _ c hc => ?_
    split
    · exact pure fun _ _ => Answer.within_ofError _
    · next c =>
      exact bind (keepContext name (hc c rfl)) fun _ _ _ _ => bind (isCapturing c) fun _ _ _ _ =>
        plain _

theorem openContext (kind : ContextKind) (name : String) :
    Exec.Gives n (OfOk Context.Within) (Perform.openContext r kind name) := by
  cases kind with
  | main => exact main hr.call
  | ofMachine => exact bind (machineNamed name) fun _ _ _ hm => ofMachine hr.call hm
  | isolated => exact bind (machineNamed name) fun _ _ _ hm => isolated hr.call hm

/-- A request to a context, by the time the context has been found. -/
theorem inContext {k : Nat} (hk : n ≤ k) {c : Context} (hc : c.Within k) {request : ContextRequest}
    (h : request.Within n) : Exec.Gives k Answer.Within (Perform.inContext r c request) := by
  have hI : (r.machine c.machine).Gives := hr.interpreter hc.2
  cases request with
  | «open» kind machine showErrors marker => exact plain _
  | describe => exact bind (isCapturing c) fun _ _ _ _ => plain _
  | errorOccurred => exact bind (quiet hI.errorOccurred) fun _ _ _ _ => plain _
  | execute source mode showErrors =>
    exact bind (execute hI hc source mode showErrors) fun _ _ _ ho => ofObject ho
  | run source mode => exact bind (execute hI hc source mode _) fun _ _ _ ho => ofObject ho
  | compiles source mode => exact bind (compiles hI source mode) fun _ _ _ _ => plain _
  | runSimple source => exact bind (runSource hI source) fun _ _ _ _ => plain _
  | setGlobal name value =>
    exact bind ((object value h).mono hk) fun _ _ _ hv =>
      bind (setGlobal hI c name hv) fun _ _ _ _ => plain _
  | getGlobal name => exact bind (getGlobal hI c name) fun _ _ _ ho => ofObject ho
  | getAttr target name =>
    exact bind ((object target h).mono hk) fun _ _ _ _ =>
      bind (getAttr hI _ name) fun _ _ _ ho => ofObject ho
  | setAttr target name value =>
    exact bind ((object target h.1).mono hk) fun _ hk' _ _ =>
      bind ((object value h.2).mono (Nat.le_trans hk hk')) fun _ _ _ hv =>
        bind (setAttr hI _ name hv) fun _ _ _ _ => plain _
  | strOf target =>
    exact bind ((object target h).mono hk) fun _ _ _ _ => bind (strOf hI _) fun _ _ _ _ => plain _
  | reprOf target =>
    exact bind ((object target h).mono hk) fun _ _ _ _ => bind (reprOf hI _) fun _ _ _ _ => plain _
  | discard target =>
    exact bind ((object target h).mono hk) fun _ _ _ _ => bind (discard hI _) fun _ _ _ _ => plain _
  | capture => exact bind (startCapture hI hc) fun _ _ _ _ => plain _
  | isCapturing => exact bind (isCapturing c) fun _ _ _ _ => plain _
  | drain => exact bind (drain hI hc) fun _ _ _ _ => plain _
  | allOutput => exact bind (allOutput hI hc) fun _ _ _ _ => plain _

theorem context (name : String) {request : ContextRequest} (h : request.Within n) :
    Exec.Gives n Answer.Within (Perform.context r name request) := by
  unfold Perform.context
  split
  · refine bind (hr.openContext _ _) fun _ _ _ hc => ofExcept hc fun c hc => ?_
    exact bind (keepContext name hc) fun _ _ _ _ => plain _
  · exact bind (contextNamed name) fun _ hk _ hc => hr.inContext hk hc h

theorem mapObjects (i : Nat) (f : Option Ref) {items : List (Option Ref)}
    (h : RefsWithin n items) : Exec.Gives n Untold (Perform.mapObjects r i f items) := by
  induction items with
  | nil => exact pure_untold _
  | cons item rest ih =>
    obtain ⟨hitem, hrest⟩ := List.forall_mem_cons.mp h
    exact bind (callObject hr.call i f (.cons hitem refsWithin_nil)) fun _ hk _ _ =>
      bind ((ih hrest).mono hk) fun _ _ _ _ => pure_untold _

theorem inspect (name : String) {request : InspectRequest} (h : request.Within n) :
    Exec.Gives n Answer.Within (Perform.inspect r name request) := by
  cases request with
  | object value => exact bind (object value h) fun _ _ _ ho => ofObject ho
  | same a b =>
    exact bind (object a h.1) fun _ hk _ _ => bind ((object b h.2).mono hk) fun _ _ _ _ => plain _
  | pending =>
    exact bind (scriptedNamed name) fun _ _ i _ => bind (quiet (.machine_untold i)) fun _ _ _ _ =>
      plain _
  | takeError =>
    exact bind (scriptedNamed name) fun _ _ i _ => bind (quiet (.takeFault i)) fun _ _ _ _ =>
      plain _
  | console =>
    exact bind (scriptedNamed name) fun _ _ i _ => bind (quiet (.machine_untold i)) fun _ _ _ _ =>
      plain _
  | executed =>
    exact bind (scriptedNamed name) fun _ _ i _ => bind (quiet (.machine_untold i)) fun _ _ _ _ =>
      plain _
  | call callable args =>
    refine bind (scriptedNamed name) fun k hk i _ => ?_
    refine bind ((object callable h.1).mono hk) fun k' hk' f _ => ?_
    split
    · exact plain _
    · exact bind ((objects args h.2).mono (Nat.le_trans hk hk')) fun _ _ _ hargs =>
        bind (callObject hr.call i _ hargs) fun _ _ _ ho => ofObject ho
  | map callable values =>
    refine bind (scriptedNamed name) fun k hk i _ => ?_
    refine bind ((object callable h.1).mono hk) fun k' hk' f _ => ?_
    exact bind ((objects values h.2).mono (Nat.le_trans hk hk')) fun _ _ _ hvalues =>
      bind (hr.mapObjects i f hvalues) fun _ _ _ _ => bind (objectsJson _) fun _ _ _ _ => plain _

theorem interface (name : String) {request : InterfaceRequest} (h : request.Within n) :
    Exec.Gives n Answer.Within (Perform.interface r name request) := by
  unfold Perform.interface
  refine bind (machineNamed name) fun k hk m hm => ?_
  have hI : (r.machine m).Gives := hr.interpreter hm
  cases request with
  | parseTuple args format =>
    exact bind ((object args h).mono hk) fun _ _ _ _ => bind (quiet (hI.parseTuple _ _))
      fun _ _ _ _ => bind (unpackedJson _) fun _ _ _ _ => plain _
  | buildValue value =>
    exact bind ((built h).mono hk) fun _ _ _ hv => bind (quiet (hI.buildValue hv)) fun _ _ _ ho =>
      ofObject ho
  | newText text =>
    exact bind (quiet (hI.newText _)) fun _ _ _ ho => ofExcept ho fun _ ho => ofObject ho
  | textOf target =>
    exact bind ((object target h).mono hk) fun _ _ _ _ => bind (quiet (hI.textOf _)) fun _ _ _ _ =>
      plain _
  | strOf target =>
    exact bind ((object target h).mono hk) fun _ _ _ _ => bind (quiet (hI.strOf _)) fun _ _ _ _ =>
      plain _
  | reprOf target =>
    exact bind ((object target h).mono hk) fun _ _ _ _ => bind (quiet (hI.reprOf _)) fun _ _ _ _ =>
      plain _
  | incref target =>
    exact bind ((object target h).mono hk) fun _ _ _ _ => bind (quiet (hI.incref _)) fun _ _ _ _ =>
      plain _
  | decref target =>
    exact bind ((object target h).mono hk) fun _ _ _ _ => bind (quiet (hI.decref _)) fun _ _ _ _ =>
      plain _
  | mainDict => exact bind (quiet (hI.mainDict hm.pos)) fun _ _ _ ho => ofObject ho
  | newDict => exact bind (quiet hI.newDict) fun _ _ _ ho => ofObject ho
  | builtins => exact bind (quiet (hI.builtins hm.pos)) fun _ _ _ ho => ofObject ho
  | dictGet target key =>
    exact bind ((object target h).mono hk) fun _ _ _ _ => bind (quiet (hI.dictGet _ _))
      fun _ _ _ ho => ofObject ho
  | dictSet target key value =>
    exact bind ((object target h.1).mono hk) fun _ hk' _ _ =>
      bind ((object value h.2).mono (Nat.le_trans hk hk')) fun _ _ _ hv =>
        bind (quiet (hI.dictSet _ _ hv)) fun _ _ _ _ => plain _
  | getAttr target key =>
    exact bind ((object target h).mono hk) fun _ _ _ _ => bind (quiet (hI.getAttr _ _))
      fun _ _ _ ho => ofObject ho
  | setAttr target key value =>
    exact bind ((object target h.1).mono hk) fun _ hk' _ _ =>
      bind ((object value h.2).mono (Nat.le_trans hk hk')) fun _ _ _ hv =>
        bind (quiet (hI.setAttr _ _ hv)) fun _ _ _ _ => plain _
  | runString source mode scope =>
    exact bind ((object scope h).mono hk) fun _ _ _ _ => bind (hI.runString _ _ _) fun _ _ _ ho =>
      ofObject ho
  | compile source name mode =>
    exact bind (quiet (hI.compile _ _ _)) fun _ _ _ ho => ofObject ho
  | runSimple source => exact bind (hI.runSimple _) fun _ _ _ _ => plain _
  | errorOccurred => exact bind (quiet hI.errorOccurred) fun _ _ _ _ => plain _
  | printError => exact bind (quiet hI.printError) fun _ _ _ _ => plain _
  | clearError => exact bind (quiet hI.clearError) fun _ _ _ _ => plain _
  | raise message => exact bind (quiet (hI.raiseRuntimeError _)) fun _ _ _ _ => plain _
  | ensureStarted => exact bind (quiet hI.ensureStarted) fun _ _ _ _ => plain _

theorem marshal (name : String) {request : MarshalRequest} (h : request.Within n) :
    Exec.Gives n Answer.Within (Perform.marshal r name request) := by
  unfold Perform.marshal
  refine bind (machineNamed name) fun k hk m hm => ?_
  have hI : (r.machine m).Gives := hr.interpreter hm
  cases request with
  | parseIn args kind =>
    exact bind ((object args h).mono hk) fun _ _ _ _ => bind (quiet (.parseIn hI _ kind))
      fun _ _ _ hargs => ofExcept hargs fun _ _ => bind (argumentsJson _) fun _ _ _ _ => plain _
  | buildOut v target =>
    exact bind ((value h).mono hk) fun _ _ _ hv => bind (quiet (.buildOut hI hv target))
      fun _ _ _ ho => ofObject ho
  | none => exact bind (quiet (hI.buildValue (v := .none) trivial)) fun _ _ _ ho => ofObject ho
  | handle target => exact bind ((object target h).mono hk) fun _ _ _ ho => ofObject ho

theorem handle (request : HandleRequest) :
    Exec.Gives n Answer.Within (Perform.handle r request) := by
  unfold Perform.handle
  split
  · refine bind getDesk fun _ _ d _ => ?_
    split
    · exact plain _
    · exact bind (lambdaJson _) fun _ _ _ _ => plain _
  · refine bind getDesk fun _ _ d _ => ?_
    split
    · exact plain _
    · exact bind (release hr.call _) fun _ _ _ _ => plain _
  · exact bind getDesk fun _ _ _ _ =>
      bind (modifyNames (fun _ => rfl) (fun _ => rfl) fun _ => rfl) fun _ _ _ _ => plain _
  · split
    · exact plain _
    · exact bind (keepLambda _) fun _ _ _ _ =>
        bind (modifyNames (fun _ => rfl) (fun _ => rfl) fun _ => rfl) fun _ _ _ _ => plain _
  · next name contextName =>
    refine bind getDesk fun k _ d _ => ?_
    have hnamed : Exec.Gives k Untold (Bench.named d.sources name) :=
      named (fun _ _ => trivial) (fun _ _ _ => trivial) name
    refine bind hnamed fun _ _ i _ => bind (contextNamed contextName) fun _ _ c hc => ?_
    refine bind (resolve (hr.interpreter hc.2) hc i) fun k _ result hresult => ?_
    have hanswer : Exec.Gives k Answer.Within
        (Answer.ofExcept LambdaError.report (fun o => Answer.ofObject (some o)) result) :=
      ofExcept hresult fun o ho => ofObject (refWithin_some.mpr ho)
    refine bind hanswer fun _ _ answer ha => bind state fun _ hk _ _ => pure fun _ hk' => ?_
    exact (RefWithin.mono hk ha).mono hk'

theorem registry {request : RegistryRequest} (h : request.Within n) :
    Exec.Gives n Answer.Within (Perform.registry r request) := by
  unfold Perform.registry
  split
  · exact bind (unregister _) fun _ _ _ _ => plain _
  · exact bind state fun _ _ _ _ => plain _
  · exact bind state fun _ _ _ _ => plain _
  · exact bind state fun _ _ _ _ => plain _
  · refine bind (arguments h) fun k _ args hargs => bind_get fun w hw hn => ?_
    split
    · exact plain _ w hw hn
    · next shape call hget =>
      have hcall : call.Within w.extent := hw.closures _ _ _ hget
      have hrun := hr.host (hcall _ (Nat.le_refl _) args (hargs.mono hn))
      refine bind hrun (fun _ _ v _ => ?_) w hw (Nat.le_refl _)
      exact bind (valueJson v) fun _ _ _ _ => plain _
  · exact bind state fun _ _ _ _ => plain _
  · exact bind state fun _ _ _ _ => plain _
  · exact bind (object _ h.1) fun _ hk _ _ => bind ((object _ h.2).mono hk) fun _ _ _ _ =>
      bind (hr.enter _ _) fun _ _ _ ho => ofObject ho
  · exact bind (acquireAll _) fun _ _ _ _ => bind state fun _ _ _ _ =>
      bind (releaseAll _) fun _ _ _ _ => bind state fun _ _ _ _ => plain _

/-! ### Steps that carry code of the host -/

theorem exposure (how : Exposure) (shape : Shape) {call : Closure} (hcall : call.Within n) :
    Exec.Gives n Untold (Perform.expose r how shape call) := by
  unfold Perform.expose
  split
  · exact expose hr.call shape hcall
  · exact exposeAs hr.call _ shape hcall
  · exact exposeUntyped hr.call shape hcall
  · exact bind (machineNamed _) fun _ hk _ hm => bind drawLambdaId fun _ hk' id _ =>
      create hr.call (hm.mono hk') id shape ((hcall.mono hk).mono hk')

omit hr in
theorem registration (id : String) (shape : Shape) {call : Closure} (hcall : call.Within n) :
    Exec.Gives n Answer.Within (Perform.register id shape call) := by
  unfold Perform.register
  split
  · exact plain _
  · exact bind (register _ shape hcall) fun _ _ _ _ =>
      ofExcept (Q := Untold) (fun _ _ => trivial) fun _ _ => plain _

theorem withLambda (i : Nat) {body : Exec Session Answer}
    (hbody : Exec.Gives n Answer.Within body) :
    Exec.Gives n Answer.Within (Perform.withLambda r i body) := by
  refine bind_get fun w hw hn => ?_
  refine bind (keepObject "scoped" (hw.callable? i)) (fun _ hk _ _ => ?_) w hw (Nat.le_refl _)
  exact withRelease (Q := Answer.Within) hr.call (fun h ha => RefWithin.mono h ha) i
    (hbody.mono (Nat.le_trans hn hk))

theorem cell {c : Context} (hc : c.Within n) (source : String) (marker : Option Char)
    {handler : Option (String → String → Exec Session Directive)}
    (hh : ∀ f ∈ handler, ∀ directive argument, Exec.Gives n Untold (f directive argument)) :
    Exec.Gives n Answer.Within (Perform.cell r c source marker handler) := by
  have hI : (r.machine c.machine).Gives := hr.interpreter hc.2
  cases handler with
  | none => exact bind (runCell hI hc _ _ fun _ _ => pure_untold _) fun _ _ _ _ => plain _
  | some f => exact bind (runCell hI hc _ _ (hh f rfl)) fun _ _ _ _ => plain _

end Recursion.Gives

end ClosureBridge
