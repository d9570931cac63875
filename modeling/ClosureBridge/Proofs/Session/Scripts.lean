import ClosureBridge.Proofs.Session.Keeps

/-!
# What scripts do to the state of the library

A script does to the state of the library what its calls of objects do, and otherwise only makes
objects and changes namespaces and buffers. An error of a script is no pending error of the
interpreter until the script has ended. So where calls keep a property that is kept by events other
than errors, scripts do.

## Main definitions

* `Script.receive`: what the caller makes of the answer of the router.

## Main statements

* `Session.Steady.eval`: evaluating an expression keeps what calling an object keeps.
* `Session.Steady.invoke`: calling an object keeps what entering the router keeps.
* `Session.Lasting.machine`: the operations of an interpreter keep what calling an object keeps.
-/

namespace ClosureBridge

namespace Script

/-- An operation that runs no code of the host, and a computation that goes on from its result. -/
theorem Eval.run_quiet_bind {δ α β : Type} (q : Quiet (Outside δ) α) (f : α → Eval δ β)
    (w : World (Outside δ)) :
    (quiet q >>= f).run.run w =
      (f (ReaderT.run q w.descriptors w.outside).1).run.run
        { w with outside := (ReaderT.run q w.descriptors w.outside).2 } := rfl

/-- A computation of the library, and a computation of a script that goes on from its result. -/
theorem Eval.run_ofExec_bind {δ α β : Type} (e : Exec (World (Outside δ)) α) (f : α → Eval δ β)
    (w : World (Outside δ)) :
    (ofExec e >>= f).run.run w =
      match e.run w with
      | (.ok a, w) => (f a).run.run w
      | (.error s, w) => (.error s, w) := by
  have h : (ofExec e >>= f).run = (e >>= fun a => pure (.ok a)) >>= ExceptT.bindCont f := rfl
  rw [h, Exec.run_bind, Exec.run_bind]
  rcases e.run w with ⟨_ | a, v⟩ <;> rfl

/-- A computation of a script that gives a result, and one that goes on from it. -/
theorem Eval.run_bind_of_ok {δ α β : Type} {m : Eval δ α} {f : α → Eval δ β}
    {w w' : World (Outside δ)} {a : α} (h : m.run.run w = (.ok (.ok a), w')) :
    (m >>= f).run.run w = (f a).run.run w' :=
  Exec.run_bind_of_ok h

/-- A computation of a script that ends with an error, and one that does not come to pass. -/
theorem Eval.run_bind_of_error {δ α β : Type} {m : Eval δ α} {f : α → Eval δ β}
    {w w' : World (Outside δ)} {e : Fault} (h : m.run.run w = (.ok (.error e), w')) :
    (m >>= f).run.run w = (.ok (.error e), w') :=
  Exec.run_bind_of_ok h

/-- What the caller makes of the answer of the router: a missing object is the pending error. -/
def receive {δ : Type} (m : Nat) : Option Ref → Eval δ (Option Ref)
  | some r => return some r
  | none => do
    throw ((← Eval.quiet (Store.takeFault m)).getD (.system "error return without exception set"))

end Script

namespace Session.Steady

open Script
open Script.Eval (Keeps)

variable {P : Session → Prop} {α : Type}

section

variable (hP : Steady False True P)
include hP

theorem evalQuiet {q : Quiet Bench.Outside α} (hq : Emits False True q) : Keeps P (Eval.quiet q) :=
  Keeps.ofExec (hP.quiet hq)

theorem evalMake {o : Object} (h : o.isBuffer = false) : Keeps P (Eval.make o) :=
  hP.evalQuiet (.alloc o h)

theorem ofOutcome {r : Operator.Outcome} (h : ∀ o, r = .object o → o.isBuffer = false) :
    Keeps P (Eval.ofOutcome r) := by
  cases r with
  | object o => exact hP.evalMake (h o rfl)
  | fault e => exact .throw e
  | overflow e => exact Keeps.ofExec (.panic _)

theorem lookup (scope : Scope) (name : String) : Keeps P (Script.lookup scope name) := by
  unfold Script.lookup
  split
  · exact .pure _
  · refine Keeps.bind (hP.evalQuiet (.find _ _)) fun r => ?_
    split
    · exact .pure _
    · split
      · next o ho => exact .bind (hP.evalMake (isBuffer_of_constant? ho)) fun _ => .pure _
      · exact .pure _

theorem printLine (m : Nat) (args : List (Option Ref)) : Keeps P (Script.printLine m args) :=
  .bind (Keeps.mapM (fun _ => hP.evalQuiet (.str _)) args) fun _ =>
    .bind (hP.evalQuiet (.write trivial m _)) fun _ =>
      .bind (hP.evalQuiet (.write trivial m _)) fun _ => hP.evalMake rfl

theorem length (arg : Option Ref) : Keeps P (Script.length arg) := by
  unfold Script.length
  refine Keeps.bind (hP.evalQuiet (.object _)) fun o => ?_
  split
  · exact hP.evalMake rfl
  · split
    · exact hP.evalMake rfl
    · exact .throw _

theorem listOf (arg : Option Ref) : Keeps P (Script.listOf arg) := by
  unfold Script.listOf
  refine Keeps.bind (hP.evalQuiet (.object _)) fun o => ?_
  split
  · exact hP.evalMake rfl
  · exact .throw _

/-- A buffer that was looked at, changed by an event. -/
theorem storeBuffer {w : Session} (hw : P w) {r : Ref} {buffer : OutputBuffer}
    (ho : w.outside.store.heap.get (some r) = .output buffer)
    {f : OutputBuffer → OutputBuffer} (e : Event) (he : e.isRaise = false)
    (hf : e.apply w.outside.store = w.outside.store.changing r (Object.onBuffer f))
    {o : Object} (h : o.isBuffer = false) :
    P ((do
      Eval.quiet (Store.modifyHeap fun h => h.set r (.output (f buffer)))
      Eval.make o : Eval Bench (Option Ref)).run.run w).2 := by
  have hchange : Object.onBuffer f (w.outside.store.heap.get (some r)) =
      some (.output (f buffer)) := by rw [ho]; rfl
  have hpermitted : ∀ e' ∈ [e], e'.Permitted False True := by simpa using ⟨by simp [he], by simp⟩
  rw [Eval.run_quiet_bind]
  refine hP.evalMake h _ (hP.emit hpermitted ?_ rfl hw)
  rw [Store.after_cons, Store.after_nil, hf]
  exact Emits.change hchange w.descriptors

/-- The buffer that a method changes is the one that was looked at. -/
theorem callMethod (target : Option Ref) (name : String) (args : List (Option Ref)) :
    Keeps P (Script.callMethod target name args) := by
  intro w hw
  unfold Script.callMethod
  rw [Eval.run_quiet_bind]
  split
  · next r buffer ho =>
    split
    · rw [Eval.run_quiet_bind]
      exact hP.storeBuffer hw ho (.wrote r _) rfl rfl rfl
    · exact hP.evalMake rfl w hw
    · exact hP.evalMake rfl w hw
    · split
      · exact hP.evalMake rfl w hw
      · exact Keeps.ofExec (.panic _) w hw
    · exact hP.storeBuffer hw ho (.marked r) rfl rfl rfl
    · exact Keeps.throw _ w hw
  · exact Keeps.throw _ w hw

end

/-! ### What calling an object keeps -/

variable {call : Caller Bench} {m : Nat}

theorem callEach (hc : ∀ f args, Keeps P (call m f args)) (f : Option Ref)
    (items : List (Option Ref)) :
    Keeps P (Script.callEach call m f items) := by
  induction items with
  | nil => exact .pure _
  | cons item rest ih => exact .bind (hc _ _) fun _ => .bind ih fun _ => .pure _

theorem mapItems (hP : Steady False True P) (hc : ∀ f args, Keeps P (call m f args))
    (f items : Option Ref) : Keeps P (Script.mapItems call m f items) := by
  unfold Script.mapItems
  refine Keeps.bind (hP.evalQuiet (.object _)) fun o => ?_
  split
  · exact .bind (callEach hc _ _) fun _ => hP.evalMake rfl
  · exact .throw _

theorem builtin (hP : Steady False True P) (hc : ∀ f args, Keeps P (call m f args))
    (name : String) (args : List (Option Ref)) :
    Keeps P (Script.builtin call m name args) := by
  unfold Script.builtin
  split
  · exact hP.printLine _ _
  · exact hP.length _
  · exact .throw _
  · exact hP.mapItems hc _ _
  · exact .throw _
  · exact hP.listOf _
  · exact .throw _
  · exact .bind (hP.evalQuiet (.str _)) fun _ => hP.evalMake rfl
  · exact .throw _
  · exact .bind (hP.evalQuiet (.shown _)) fun _ => hP.evalMake rfl
  · exact .throw _
  · exact .throw _

mutual

/-- Evaluating an expression keeps what calling an object keeps. -/
theorem eval (hP : Steady False True P) (hc : ∀ f args, Keeps P (call m f args)) (scope : Scope) :
    ∀ e, Keeps P (Script.eval call m scope e)
  | .integer _ => hP.evalMake rfl
  | .float _ => hP.evalMake rfl
  | .text _ => hP.evalMake rfl
  | .name x => by
    unfold Script.eval
    refine Keeps.bind (hP.lookup _ _) fun r => ?_
    split
    · exact .pure _
    · exact .throw _
  | .list items => .bind (evalAll hP hc scope items) fun _ => hP.evalMake rfl
  | .negate e => .bind (eval hP hc scope e) fun _ =>
      .bind (hP.evalQuiet (.object _)) fun _ => hP.ofOutcome fun _ => Operator.isBuffer_of_negate
  | .binary _ a b => .bind (eval hP hc scope a) fun _ => .bind (eval hP hc scope b) fun _ =>
      .bind (hP.evalQuiet (.object _)) fun _ =>
        .bind (hP.evalQuiet (.object _)) fun _ =>
          hP.ofOutcome fun _ => Operator.isBuffer_of_binary
  | .equal a b => .bind (eval hP hc scope a) fun _ => .bind (eval hP hc scope b) fun _ =>
      .bind (hP.evalQuiet (.shown _)) fun _ =>
        .bind (hP.evalQuiet (.shown _)) fun _ => hP.evalMake rfl
  | .lambda _ _ => hP.evalMake rfl
  | .call callee args => by
    unfold Script.eval
    refine Keeps.bind (evalAll hP hc scope args) fun values => ?_
    split
    · refine Keeps.bind (hP.lookup _ _) fun f => ?_
      split
      · exact hc _ _
      · exact hP.builtin hc _ _
    · exact .bind (eval hP hc scope callee) fun _ => hc _ _
  | .method receiver _ args => .bind (eval hP hc scope receiver) fun _ =>
      .bind (evalAll hP hc scope args) fun _ => hP.callMethod _ _ _

theorem evalAll (hP : Steady False True P) (hc : ∀ f args, Keeps P (call m f args))
    (scope : Scope) : ∀ es, Keeps P (Script.evalAll call m scope es)
  | [] => .pure _
  | e :: rest => .bind (eval hP hc scope e) fun _ =>
      .bind (evalAll hP hc scope rest) fun _ => .pure _

end

section

variable (hP : Steady False True P) (hc : ∀ f args, Keeps P (call m f args))
include hP hc

theorem executeOne (globals : Option Ref) (s : Statement) :
    Keeps P (Script.executeOne call m globals s) := by
  cases s with
  | assign name e =>
    exact .bind (hP.eval hc _ _) fun _ =>
      .bind (hP.evalQuiet (.dictionary _ _ _)) fun _ => .pure _
  | raise kind message => exact .throw _
  | evaluate e => exact .bind (hP.eval hc _ _) fun _ => .pure _

theorem executeAll (globals : Option Ref) (statements : List Statement) :
    Keeps P (Script.execute call m globals statements) := by
  induction statements with
  | nil => exact hP.evalMake rfl
  | cons s rest ih => exact .bind (hP.executeOne hc _ _) fun _ => ih

omit hP hc in
theorem readable (r : Except SyntaxFault α) : Keeps P (Script.readable r) := by
  cases r with
  | ok a => exact .pure _
  | error e => exact .throw _

theorem runText (globals : Option Ref) (mode : Mode) (text : String) :
    Keeps P (Script.runText call m globals mode text) := by
  unfold Script.runText
  split
  · exact .bind (readable _) fun _ => hP.eval hc _ _
  · exact .bind (readable _) fun _ => hP.executeAll hc _ _

/-- Calling an object keeps what the calls inside it keep, if entering the router does, a missing
answer being an error that is taken. -/
theorem invoke {enter : Option Ref → Option Ref → Exec Session (Option Ref)}
    (he : ∀ self args, Keeps P (Eval.ofExec (enter self args) >>= receive m))
    (callable : Option Ref) (args : List (Option Ref)) :
    Keeps P (Script.invoke enter call m callable args) := by
  unfold Script.invoke
  refine Keeps.bind (hP.evalQuiet (.object _)) fun o => ?_
  split
  · refine Keeps.bind (hP.evalQuiet .descriptors) fun descriptors => ?_
    split
    · exact .throw _
    · exact .bind (hP.evalMake rfl) fun tuple => he _ tuple
  · split
    · exact .bind (hP.evalQuiet (.machine _)) fun _ => hP.eval hc _ _
    · exact .throw _
  · exact .throw _

omit hc in
/-- What the router keeps is kept when its answer is received. -/
theorem receive {enter : Exec Session (Option Ref)} (he : Exec.Keeps P enter) :
    Keeps P (Eval.ofExec enter >>= Script.receive m) := by
  refine Keeps.bind (Keeps.ofExec he) fun r => ?_
  cases r with
  | some r => exact .pure _
  | none => exact .bind (hP.evalQuiet (.takeFault _)) fun _ => .throw _

end

/-- Putting the buffer for output in place runs no script. -/
theorem runCapture {raises writes : Prop} (hP : Steady raises writes P) (m : Nat) (mode : Mode)
    (globals : Option Ref) :
    Exec.Keeps P (Script.runString call m Capture.source mode globals) := by
  unfold Script.runString
  refine Exec.Keeps.bind (hP.quiet (.ran m _)) fun _ => ?_
  rw [if_pos (beq_self_eq_true _)]
  exact hP.quiet (.installOutput _ _)

end Session.Steady

/-! ### Interpreters -/

namespace Session.Lasting

open Script
open Script.Eval (Keeps)

variable {direct : Prop} {P : Session → Prop} {call : Caller Bench}

section

variable (hP : Lasting direct P) (hc : ∀ m f args, Keeps P (call m f args))
include hP hc

theorem callObject (m : Nat) (callable : Option Ref) (args : List (Option Ref)) :
    Exec.Keeps P (Script.callObject call m callable args) := by
  refine Exec.Keeps.bind (hc _ _ _) fun r => ?_
  split
  · exact .pure _
  · exact .bind (hP.quiet (.raise trivial _ _)) fun _ => .pure _

theorem runString (m : Nat) (source : String) (mode : Mode) (globals : Option Ref) :
    Exec.Keeps P (Script.runString call m source mode globals) := by
  unfold Script.runString
  refine Exec.Keeps.bind (hP.quiet (.ran m source)) fun _ => ?_
  split
  · exact hP.quiet (.installOutput _ _)
  · refine Exec.Keeps.bind (hP.steady.calm.runText (hc m) _ _ _) fun r => ?_
    split
    · exact .pure _
    · exact .bind (hP.quiet (.raise trivial _ _)) fun _ => .pure _

theorem runSource (m : Nat) (source : String) :
    Exec.Keeps P (Script.runSimple call m source) := by
  unfold Script.runSimple
  refine Exec.Keeps.bind (hP.quiet (.machine _)) fun machine => ?_
  refine Exec.Keeps.bind (hP.runString hc _ _ _ _) fun r => ?_
  split
  · exact .pure _
  · exact .bind (hP.quiet (.printFault _ trivial)) fun _ => .pure _

/-- The operations of an interpreter keep what calling an object keeps. -/
theorem machine (m : MachineId) : (Bench.machine call m).Keeps P where
  calm := Bench.calm_machine call m
  runString source mode scope := by
    cases m with
    | scripted n => exact hP.runString hc _ _ _ _
    | native n textConstructor => exact hP.quiet (Bench.emits_onTape _)
  runSimple source := by
    cases m with
    | scripted n => exact hP.runSource hc _ _
    | native n textConstructor =>
      exact .bind (hP.quiet (Bench.emits_onTape _)) fun _ => .pure _
  installs c mode scope := by
    cases m with
    | scripted n =>
      have hP : Steady False False fun w : Session => w.capturing = c := .capturing c
      exact hP.runCapture n mode scope
    | native n textConstructor =>
      have hP : Steady False True fun w : Session => w.capturing = c := .capturing c
      exact hP.quiet (Bench.emits_onTape _)

end

end Session.Lasting

end ClosureBridge
