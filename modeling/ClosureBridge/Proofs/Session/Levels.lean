import ClosureBridge.Bench.Run
import ClosureBridge.Proofs.Session.Nesting

/-!
# Runs do not depend on the budget

Host code and interpreters call each other to any depth, and a run has a budget of levels for that.
A run that does not use it up ends the same with any greater one.

## Main definitions

* `Recursion.Extends`: calls of objects and of closures extend others.

## Main statements

* `Recursion.machine_congr`: what does not run source is the same however objects are called.
* `Recursion.Extends.program`, `Recursion.Extends.step`: programs and steps extend where calls do.
* `Recursion.level_extends`: calls with more levels left extend those with fewer.
-/

namespace ClosureBridge

namespace Interpreter.Extends

variable {ι : Type} {I I' : Interpreter ι} (hI : I.Extends I')
include hI

theorem execute (c : Context) (source : String) (mode : Mode) (showErrors : Bool) :
    Exec.Extends (c.execute I source mode showErrors) (c.execute I' source mode showErrors) := by
  obtain ⟨hs, -⟩ := hI
  unfold Context.execute
  split
  · refine .bind (.refl _) fun _ => ?_
    exact .bind (hs source mode _) fun _ => .refl _
  · exact .refl _

theorem runSimple (source : String) :
    Exec.Extends (Context.runSimple I source) (Context.runSimple I' source) := by
  obtain ⟨-, hr⟩ := hI
  unfold Context.runSimple
  split
  · exact hr source
  · exact .refl _

theorem install (c : Context) : Exec.Extends (Capture.install I c) (Capture.install I' c) := by
  have he := hI.execute c Capture.source .file true
  obtain ⟨-, -⟩ := hI
  unfold Capture.install
  refine .bind (.refl _) fun found => ?_
  split
  · exact .refl _
  · exact .bind he fun _ => .refl _

theorem start (c : Context) : Exec.Extends (Capture.start I c) (Capture.start I' c) := by
  unfold Capture.start
  refine .bind_right _ fun capturing => ?_
  split
  · exact .refl _
  · exact .bind (hI.install c) fun _ => .refl _

theorem read (c : Context) (method : String) :
    Exec.Extends (Capture.read I c method) (Capture.read I' c method) := by
  have he := hI.execute c (Capture.methodCall method) .eval false
  obtain ⟨-, -⟩ := hI
  exact .bind he fun _ => .refl _

theorem drain (c : Context) : Exec.Extends (Capture.drain I c) (Capture.drain I' c) := by
  have hr := hI.read c "recent"
  have he := hI.execute c (Capture.methodCall "mark") .file false
  obtain ⟨-, -⟩ := hI
  unfold Capture.drain
  refine .bind_right _ fun capturing => ?_
  split
  · exact .bind hr fun _ => .bind he fun _ => .refl _
  · exact .refl _

theorem all (c : Context) : Exec.Extends (Capture.all I c) (Capture.all I' c) := by
  unfold Capture.all
  refine .bind_right _ fun capturing => ?_
  split
  · exact hI.read c "value"
  · exact .refl _

theorem runBody (c : Context) (lines : List (List Char)) :
    Exec.Extends (Cell.runBody I c lines) (Cell.runBody I' c lines) := by
  have he := hI.execute c (String.ofList (Lines.join lines)) .file true
  obtain ⟨-, -⟩ := hI
  unfold Cell.runBody
  dsimp only
  split
  · exact .refl _
  · exact .bind he fun _ => .refl _

theorem runTail (c : Context) (tail : Option (List Char)) :
    Exec.Extends (Cell.runTail I c tail) (Cell.runTail I' c tail) := by
  cases tail with
  | none => exact .refl _
  | some line =>
    have he := hI.execute c (String.ofList line) .eval true
    obtain ⟨-, -⟩ := hI
    exact .bind he fun _ => .refl _

omit hI in
theorem readLines (marker : Char) {handler handler' : String → String → Exec (World ι) Directive}
    (hh : ∀ directive argument,
      Exec.Extends (handler directive argument) (handler' directive argument))
    (lines : List (List Char)) :
    Exec.Extends (Cell.read marker handler lines) (Cell.read marker handler' lines) := by
  induction lines with
  | nil => exact .refl _
  | cons line rest ih =>
    unfold Cell.read
    split
    · exact .bind (hh _ _) fun _ => .bind ih fun _ => .refl _
    · exact .bind ih fun _ => .refl _

theorem runCell (c : Context) (source : String) (marker : Char)
    {handler handler' : String → String → Exec (World ι) Directive}
    (hh : ∀ directive argument,
      Exec.Extends (handler directive argument) (handler' directive argument)) :
    Exec.Extends (Cell.run I c source marker handler) (Cell.run I' c source marker handler') := by
  have hs := hI.start c
  have hd := hI.drain c
  have hb := hI.runBody c
  have ht := hI.runTail c
  obtain ⟨-, -⟩ := hI
  refine .bind hs fun _ => .bind hd fun _ => .bind (readLines marker hh _) fun reading => ?_
  refine .bind (.refl _) fun split => .bind (hb _) fun done => ?_
  cases done with
  | false => exact .bind_right _ fun _ => .bind hd fun _ => .refl _
  | true => exact .bind (ht _) fun _ => .bind hd fun _ => .refl _

theorem resolve (c : Context) (n : Nat) :
    Exec.Extends (SourceLambda.resolve I c n) (SourceLambda.resolve I' c n) := by
  have he := fun source => hI.execute c source .file false
  obtain ⟨-, -⟩ := hI
  unfold SourceLambda.resolve
  refine .bind_right _ fun w => ?_
  split
  · exact .refl _
  · split
    · exact .refl _
    · exact .refl _
    · refine .bind_right _ fun name => .bind (.catchPanic ?_) fun _ => .refl _
      exact .bind (he _) fun _ => .refl _

end Interpreter.Extends

/-- Calls of objects and of closures extend others. -/
structure Recursion.Extends (r r' : Recursion) : Prop where
  call : r.call.Extends r'.call
  host : ∀ p, Exec.Extends (r.host p) (r'.host p)

namespace Recursion

section

variable (r r' : Recursion)

/-- What does not run source is the same however objects are called. -/
theorem machine_congr {α : Type} (F : (MachineId → Interpreter Bench.Outside) → α)
    (hF : ∀ (machine : MachineId → Interpreter Bench.Outside)
      (runString : MachineId → String → Mode → Option Ref → Exec Session (Option Ref))
      (runSimple : MachineId → String → Exec Session Bool),
      F (fun m => { machine m with runString := runString m, runSimple := runSimple m }) =
        F machine) :
    F r'.machine = F r.machine := by
  have hm : r'.machine = fun m => { r.machine m with
      runString := (r'.machine m).runString
      runSimple := (r'.machine m).runSimple } := by
    funext m
    cases m <;> rfl
  exact (congrArg F hm).trans (hF r.machine (fun m => (r'.machine m).runString) _)

theorem create_eq (m : MachineId) (id : Ident) (shape : Shape) (call : Closure) :
    Lambda.create r'.machine m id shape call = Lambda.create r.machine m id shape call :=
  machine_congr r r' (fun machine => Lambda.create machine m id shape call) fun _ _ _ => rfl

theorem expose_eq (how : Exposure) (shape : Shape) (call : Closure) :
    Perform.expose r' how shape call = Perform.expose r how shape call := by
  unfold Perform.expose
  cases how with
  | fresh =>
    exact machine_congr r r' (fun machine => Lambda.expose machine shape call) fun _ _ _ => rfl
  | withId id =>
    exact machine_congr r r' (fun machine => Lambda.exposeAs machine id shape call)
      fun _ _ _ => rfl
  | untyped =>
    exact machine_congr r r' (fun machine => Lambda.exposeUntyped machine shape call)
      fun _ _ _ => rfl
  | inMachine name => simp only [create_eq r r']

theorem openContext_eq (kind : ContextKind) (name : String) :
    Perform.openContext r' kind name = Perform.openContext r kind name := by
  unfold Perform.openContext
  cases kind with
  | main => exact machine_congr r r' (fun machine => Context.main machine) fun _ _ _ => rfl
  | ofMachine =>
    exact machine_congr r r' (fun machine => do
      Context.ofMachine machine (← Bench.machineNamed name)) fun _ _ _ => rfl
  | isolated =>
    exact machine_congr r r' (fun machine => do
      Context.isolated machine (← Bench.machineNamed name)) fun _ _ _ => rfl

theorem load_eq (config : RuntimeConfig) (environment : Option String) (shelf : Shelf) :
    Binding.load r'.machine Bench.resolve config environment shelf =
      Binding.load r.machine Bench.resolve config environment shelf :=
  machine_congr r r' (fun machine => Binding.load machine Bench.resolve config environment shelf)
    fun _ _ _ => rfl

theorem begin_eq (config : Config) (date : String) (environment : Option String) (shelf : Shelf) :
    Session.begin r'.machine Bench.resolve config date environment shelf =
      Session.begin r.machine Bench.resolve config date environment shelf :=
  machine_congr r r'
    (fun machine => Session.begin machine Bench.resolve config date environment shelf)
    fun _ _ _ => rfl

theorem runtime_eq (request : RuntimeRequest) :
    Perform.runtime r' request = Perform.runtime r request := by
  cases request with
  | load name library environment autoStart shelf => simp only [Perform.runtime, load_eq r r']
  | begin name config date environment shelf => simp only [Perform.runtime, begin_eq r r']
  | _ => rfl

theorem release_eq (n : Nat) : Lambda.release r'.machine n = Lambda.release r.machine n :=
  machine_congr r r' (fun machine => Lambda.release machine n) fun _ _ _ => rfl

end

namespace Extends

variable {r r' : Recursion} (hr : r.Extends r')
include hr

theorem machine (m : MachineId) : (r.machine m).Extends (r'.machine m) :=
  hr.call.machine m

/-- Entering the router extends where calling closures does. -/
theorem enter (self args : Option Ref) : Exec.Extends (r.enter self args) (r'.enter self args) := by
  have hm : Dispatch.dispatch r'.machine r'.host self args =
      Dispatch.dispatch r.machine r'.host self args :=
    machine_congr r r' (fun machine => Dispatch.dispatch machine r'.host self args)
      fun _ _ _ => rfl
  unfold Recursion.enter
  rw [hm]
  refine .bind_right _ fun _ => .bind (.catchPanic ?_) fun _ => .refl _
  unfold Dispatch.route
  refine .bind_right _ fun bound => ?_
  split
  · refine .bind_right _ fun text => ?_
    split
    · refine .bind_right _ fun w => ?_
      split
      · refine .bind_right _ fun parsed => ?_
        split
        · exact .bind (hr.host _) fun _ => .refl _
        · exact .refl _
      · exact .refl _
    · exact .refl _
  · exact .refl _

theorem inContext (c : Context) (request : ContextRequest) :
    Exec.Extends (Perform.inContext r c request) (Perform.inContext r' c request) := by
  have hI := hr.machine c.machine
  unfold Perform.inContext
  generalize r.machine c.machine = I at hI ⊢
  generalize r'.machine c.machine = I' at hI ⊢
  cases request with
  | execute source mode showErrors =>
    exact .bind (hI.execute c source mode showErrors) fun _ => .refl _
  | run source mode => exact .bind (hI.execute c source mode c.showErrors) fun _ => .refl _
  | runSimple source => exact .bind (hI.runSimple source) fun _ => .refl _
  | capture => exact .bind (hI.start c) fun _ => .refl _
  | drain => exact .bind (hI.drain c) fun _ => .refl _
  | allOutput => exact .bind (hI.all c) fun _ => .refl _
  | _ =>
    obtain ⟨-, -⟩ := hI
    exact .refl _

theorem context (name : String) (request : ContextRequest) :
    Exec.Extends (Perform.context r name request) (Perform.context r' name request) := by
  unfold Perform.context
  split
  · rw [openContext_eq r r']
    exact .refl _
  · exact .bind_right _ fun c => hr.inContext c _

theorem mapObjects (n : Nat) (f : Option Ref) (items : List (Option Ref)) :
    Exec.Extends (Perform.mapObjects r n f items) (Perform.mapObjects r' n f items) := by
  induction items with
  | nil => exact .refl _
  | cons item rest ih =>
    exact .bind (hr.call.callObject n f [item]) fun _ => .bind ih fun _ => .refl _

theorem inspect (name : String) (request : InspectRequest) :
    Exec.Extends (Perform.inspect r name request) (Perform.inspect r' name request) := by
  cases request with
  | call callable args =>
    refine .bind_right _ fun n => .bind_right _ fun f => ?_
    cases f with
    | none => exact .refl _
    | some f =>
      exact .bind_right _ fun args => .bind (hr.call.callObject n (some f) args) fun _ => .refl _
  | map callable values =>
    exact .bind_right _ fun n => .bind_right _ fun f => .bind_right _ fun values =>
      .bind (hr.mapObjects n f values) fun _ => .refl _
  | _ => exact .refl _

theorem interface (name : String) (request : InterfaceRequest) :
    Exec.Extends (Perform.interface r name request) (Perform.interface r' name request) := by
  unfold Perform.interface
  refine .bind_right _ fun m => ?_
  have hI := hr.machine m
  generalize r.machine m = I at hI ⊢
  generalize r'.machine m = I' at hI ⊢
  obtain ⟨hs, hr⟩ := hI
  cases request with
  | runString source mode scope =>
    exact .bind_right _ fun scope => .bind (hs _ mode scope) fun _ => .refl _
  | runSimple source => exact .bind (hr _) fun _ => .refl _
  | _ => exact .refl _

theorem marshal (name : String) (request : MarshalRequest) :
    Exec.Extends (Perform.marshal r name request) (Perform.marshal r' name request) := by
  unfold Perform.marshal
  refine .bind_right _ fun m => ?_
  have hI := hr.machine m
  generalize r.machine m = I at hI ⊢
  generalize r'.machine m = I' at hI ⊢
  obtain ⟨-, -⟩ := hI
  exact .refl _

theorem handle (request : HandleRequest) :
    Exec.Extends (Perform.handle r request) (Perform.handle r' request) := by
  unfold Perform.handle
  split
  · exact .refl _
  · simp only [release_eq r r']
    exact .refl _
  · exact .refl _
  · exact .refl _
  · exact .bind_right _ fun desk => .bind_right _ fun n => .bind_right _ fun c =>
      .bind ((hr.machine c.machine).resolve c n) fun _ => .refl _

theorem registry (request : RegistryRequest) :
    Exec.Extends (Perform.registry r request) (Perform.registry r' request) := by
  unfold Perform.registry
  split
  case h_5 =>
    refine .bind_right _ fun args => .bind_right _ fun w => ?_
    split
    · exact .refl _
    · exact .bind (hr.host _) fun _ => .refl _
  case h_8 =>
    exact .bind_right _ fun self => .bind_right _ fun args =>
      .bind (hr.enter self args) fun _ => .refl _
  all_goals exact .refl _

omit hr in
theorem ofExcept {ε α : Type} (report : ε → Report) {f f' : α → Exec Session Answer}
    (hf : ∀ a, Exec.Extends (f a) (f' a)) (made : Except ε α) :
    Exec.Extends (Answer.ofExcept report f made) (Answer.ofExcept report f' made) := by
  cases made with
  | error e => exact .refl _
  | ok a => exact hf a

omit hr in
theorem withLambda (n : Nat) {body body' : Exec Session Answer} (hb : Exec.Extends body body') :
    Exec.Extends (Perform.withLambda r n body) (Perform.withLambda r' n body') := by
  unfold Perform.withLambda Lambda.withRelease
  rw [release_eq r r']
  exact .bind_right _ fun w => .bind_right _ fun _ => hb.andFinally _

theorem cell (c : Context) (source : String) (marker : Option Char)
    {handler handler' : String → String → Exec Session Directive}
    (hh : ∀ directive argument,
      Exec.Extends (handler directive argument) (handler' directive argument)) :
    Exec.Extends (Perform.cell r c source marker (some handler))
      (Perform.cell r' c source marker (some handler')) :=
  .bind ((hr.machine c.machine).runCell c source _ hh) fun _ => .refl _

theorem plainCell (c : Context) (source : String) (marker : Option Char) :
    Exec.Extends (Perform.cell r c source marker none) (Perform.cell r' c source marker none) :=
  .bind ((hr.machine c.machine).runCell c source _ fun _ _ => .refl _) fun _ => .refl _

omit hr in
mutual

/-- Programs extend where the calls inside them do. -/
theorem program (hr : r.Extends r') {t : Task} :
    ∀ p : Program t, Exec.Extends (Run.program r p) (Run.program r' p)
  | .done _ => .refl _
  | .panic _ => .refl _
  | .build _ k => .bind_right _ fun o => program hr (k o)
  | .lookup _ args k => by
    unfold Run.program
    refine .bind_right _ fun w => ?_
    split
    · exact program hr (k none)
    · exact .bind (hr.host _) fun v => program hr (k v)
  | .execute _ source mode showErrors k =>
    .bind_right _ fun c =>
      .bind ((hr.machine c.machine).execute c source mode showErrors) fun o => program hr (k o)
  | .unregister _ k => .bind_right _ fun b => program hr (k b)
  | .step s k => .bind (step hr s).catchPanic fun _ => program hr (k _)

/-- Steps extend where the calls inside them do. -/
theorem step (hr : r.Extends r') : ∀ s : Step, Exec.Extends (Run.step r s) (Run.step r' s)
  | .saving _ s => .bind (step hr s) fun _ => .refl _
  | .runtime request => by
    unfold Run.step
    rw [runtime_eq r r']
    exact .refl _
  | .context name request => hr.context name request
  | .inspect name request => hr.inspect name request
  | .interface name request => hr.interface name request
  | .marshal name request => hr.marshal name request
  | .handle request => hr.handle request
  | .registry request => hr.registry request
  | .expose _ how shape call => by
    unfold Run.step
    rw [expose_eq r r']
    exact .refl _
  | .register _ _ _ => .refl _
  | .scoped how shape call body => by
    unfold Run.step
    rw [expose_eq r r']
    refine .bind_right _ fun made => ofExcept _ (fun n => ?_) made
    exact withLambda n (.bind (program hr body) fun _ => .refl _)
  | .scopedName name body => by
    unfold Run.step
    refine .bind_right _ fun desk => ?_
    split
    · exact .refl _
    · exact .bind_right _ fun _ => withLambda _ (.bind (program hr body) fun _ => .refl _)
  | .cell _ source marker none => .bind_right _ fun c => hr.plainCell c source marker
  | .cell _ source marker (some handler) => .bind_right _ fun c =>
      hr.cell c source marker fun directive argument => program hr (handler directive argument)

end

end Extends

/-- **Runs do not depend on the budget.** Calls with more levels of nesting left extend those with
fewer. -/
theorem level_extends {n n' : Nat} (h : n ≤ n') : (level n).Extends (level n') := by
  induction n generalizing n' with
  | zero => exact ⟨fun _ _ _ => .exhausted _, fun _ => .exhausted _⟩
  | succ n ih =>
    obtain ⟨k, rfl⟩ := Nat.exists_eq_add_of_le' h
    have hk : (level n).Extends (level (k + n)) := ih (Nat.le_add_left n k)
    exact ⟨fun m => hk.call.invoke hk.enter m, fun p => hk.program p⟩

end Recursion

end ClosureBridge
