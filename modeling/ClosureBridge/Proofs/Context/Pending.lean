import ClosureBridge.Proofs.Context.Silence
import ClosureBridge.Proofs.Context.Watch

/-!
# No error stays pending

An operation of a context either has no error or deals with it: it prints or drops what is pending
before it returns. So no error is pending between operations, as long as the code of the host that
they reach leaves the pending error as it found it.

## Main definitions

* `Session.Settles`: a computation that leaves an error pending only when it has failed.
* `Context.Operation.performWatched`: an operation with its closures and handlers watched.
* `Context.Undisturbed`: operations that the watch does not stop.

## Main statements

* `Session.keeps_execute`: running source leaves no error pending, whether it is shown or hidden.
* `Session.keeps_perform`: so does every operation of a context.
* `Context.pending_after`: no error is pending after any of a sequence of operations, and one that
  hides errors writes nothing once its source has been evaluated.
-/

namespace ClosureBridge

open Script (Event Object Store)

/-! ### Operations that may fail -/

namespace Session

open Exec (Keeps)
open Script (Emits Eval)

variable {k : Nat} {α β : Type} {failed : α → Prop}

/-- A computation that leaves an error pending only when it has failed. -/
def Settles (k : Nat) (failed : α → Prop) (m : Exec Session α) : Prop :=
  ∀ w, Settled k w → Settled k (m.run w).2 ∨
    (∃ a, (m.run w).1 = .ok a ∧ failed a) ∧ Bound k (m.run w).2

namespace Settles

theorem of_keeps {m : Exec Session α} (hm : Keeps (Settled k) m) : Settles k failed m :=
  fun w hw => .inl (hm w hw)

/-- What fails raises an error first. -/
theorem raises {q : Quiet Bench.Outside Unit} (hq : Emits True True q) {a : α} (ha : failed a) :
    Settles k failed (q.run >>= fun _ => pure a) :=
  fun w hw => .inr ⟨⟨a, rfl, ha⟩, (stable_bound k).quiet hq w hw.toBound⟩

/-- A computation that raises no error comes first. -/
theorem bind_right {m : Exec Session β} {f : β → Exec Session α} (hm : Keeps (Settled k) m)
    (hf : ∀ b, Settles k failed (f b)) : Settles k failed (m >>= f) := by
  intro w hw
  have hv := hm w hw
  rw [Exec.run_bind]
  generalize m.run w = r at hv ⊢
  obtain ⟨_ | b, v⟩ := r
  · exact .inl hv
  · exact hf b v hv

/-- An operation of the interpreter that raises no error comes first. -/
theorem quiet_bind {q : Quiet Bench.Outside β} {f : β → Quiet Bench.Outside α}
    (hq : Emits False True q) (hf : ∀ b, Settles k failed (f b).run) :
    Settles k failed (q >>= f).run :=
  bind_right ((steady_settled k).quiet hq) hf

/-- An operation of the interpreter that fails raises an error first. -/
theorem quiet_raises {q : Quiet Bench.Outside Unit} (hq : Emits True True q) {a : α}
    (ha : failed a) : Settles k failed (q >>= fun _ => pure a).run :=
  raises hq ha

/-- What follows a failure deals with the pending error. -/
theorem bind {m : Exec Session α} {f : α → Exec Session β} (hm : Settles k failed m)
    (hf : ∀ a, Keeps (Settled k) (f a))
    (hfailed : ∀ a, failed a → ∀ v, Bound k v → Settled k ((f a).run v).2) :
    Keeps (Settled k) (m >>= f) := by
  intro w hw
  have hv := hm w hw
  rw [Exec.run_bind]
  generalize m.run w = r at hv ⊢
  rcases hv with hv | ⟨⟨a, ha, hfail⟩, hv⟩
  · obtain ⟨_ | a, v⟩ := r
    · exact hv
    · exact hf a v hv
  · obtain ⟨out, v⟩ := r
    cases ha
    exact hfailed a hfail v hv

end Settles

/-! ### A scripted interpreter -/

section

variable {call : Script.Caller Bench}

theorem settles_dictSet (scope : Option Ref) (name : String) (value : Option Ref) :
    Settles k (· = false) ((Script.interface call k).dictSet scope name value).run := by
  refine .quiet_bind (.dictionary scope name value) fun stored => ?_
  cases stored with
  | true => exact .of_keeps (.pure true)
  | false => exact .quiet_raises (.raise trivial k _) rfl

theorem settles_getAttr (target : Option Ref) (name : String) :
    Settles k (· = none) ((Script.interface call k).getAttr target name).run := by
  refine .quiet_bind (.object target) fun o => ?_
  cases o.attributes?.bind fun names => names.get? name with
  | some r => exact .of_keeps (.pure r)
  | none => exact .quiet_raises (.raise trivial k _) rfl

theorem settles_setAttr (target : Option Ref) (name : String) (value : Option Ref) :
    Settles k (· = false) ((Script.interface call k).setAttr target name value).run := by
  intro w hw
  have hself : (Script.interface call k).setAttr target name value =
      Script.setAttr k target name value := rfl
  have hobject (f : Script.Object → Quiet Bench.Outside Bool) :
      (Store.object target >>= f).run.run w =
        (f (w.outside.store.heap.get target)).run.run w := rfl
  rw [hself, Script.setAttr, hobject]
  split
  · next r names ho =>
    have hchange : Object.setAttribute name value (w.outside.store.heap.get (some r)) =
        some (.record (names.insert name value)) := by rw [ho]; rfl
    have hpermitted : ∀ e ∈ [Event.attributed r name value], e.Permitted False True := by
      simpa using .of_plain rfl rfl
    exact .inl ((steady_settled k).emit hpermitted (Emits.change hchange w.descriptors) rfl hw)
  · have hfails (e : Script.Fault) : Settles k (· = false)
        (Store.raise k e >>= fun _ => pure false : Quiet Bench.Outside Bool).run :=
      .quiet_raises (.raise trivial k e) rfl
    exact hfails _ w hw

theorem settles_compile (text name : String) (mode : Mode) :
    Settles k (· = none) ((Script.interface call k).compile text name mode).run := by
  change Settles k _ (Script.compile k text mode).run
  unfold Script.compile
  cases Script.check mode text with
  | ok _ => exact .of_keeps ((steady_settled k).quiet (.alloc _ rfl))
  | error e => exact .quiet_raises (.raise trivial k _) rfl

variable (hc : ∀ f args, Eval.Keeps (Settled k) (call k f args))
include hc

theorem settles_runString (source : String) (mode : Mode) (globals : Option Ref) :
    Settles k (· = none) ((Script.interface call k).runString source mode globals) := by
  refine .bind_right ((steady_settled k).quiet (.ran k source)) fun _ => ?_
  split
  · exact .of_keeps ((steady_settled k).quiet (.installOutput k globals))
  · refine .bind_right ((steady_settled k).runText hc globals mode source) fun r => ?_
    cases r with
    | ok r => exact .of_keeps (.pure r)
    | error e => exact .raises (.raise trivial k e) rfl

end

/-! ### Dealing with the pending error -/

section

variable (call : Script.Caller Bench) {v : Session}

theorem Bound.clear (hv : Bound k v) :
    Settled k ((Script.interface call k).clearError.run.run v).2 :=
  hv.take

theorem Bound.print (hv : Bound k v) : Settled k ((Script.printFault k).run.run v).2 := by
  rw [Quiet.run_run]
  unfold Script.printFault
  rw [Quiet.run_bind]
  split
  · next e _ =>
    have hwritten := (steady_settled k).quiet (.write trivial k e.traceback) _ hv.take
    exact hwritten
  · exact hv.take

/-- Whatever is pending is printed or dropped. -/
theorem Bound.report (hv : Bound k v) (showErrors : Bool) :
    Settled k ((Context.reportError (Script.interface call k) showErrors).run v).2 := by
  have hrun : (Context.reportError (Script.interface call k) showErrors).run v =
      (if ((v.outside.store.machines[k]?).getD default).pending.isSome then
        if showErrors then (Script.interface call k).printError.run
        else (Script.interface call k).clearError.run
      else pure () : Exec Session Unit).run v := rfl
  rw [hrun]
  split
  · cases showErrors with
    | true => exact hv.print
    | false => exact hv.clear call
  · next h =>
    refine ⟨hv, ?_⟩
    change v.pending k = none
    rw [Array.getElem?_eq_getElem hv.lt, Option.getD_some] at h
    rw [pending, Array.getElem?_eq_getElem hv.lt]
    exact Option.not_isSome_iff_eq_none.mp h

end

/-! ### The operations of a context -/

section

variable {call : Script.Caller Bench} (c : Context)

theorem keeps_ensureBuiltins :
    Keeps (Settled k) (Context.ensureBuiltins (Script.interface call k) c) := by
  have hI := Script.calm_interface call k
  unfold Context.ensureBuiltins
  refine .bind ((steady_settled k).quiet (hI.dictGet _ _)) fun bound => ?_
  split
  · refine .bind ((steady_settled k).quiet hI.builtins) fun builtins => ?_
    split
    · refine (settles_dictSet _ _ _).bind (fun stored => ?_) fun stored hstored v hv => ?_
      · split
        · exact .pure _
        · exact (steady_settled k).quiet hI.clearError
      · subst hstored
        exact hv.clear call
    · exact .pure _
  · exact .pure _

theorem keeps_compiles (source : String) (mode : Mode) :
    Keeps (Settled k) (Context.compiles (Script.interface call k) source mode) := by
  have hI := Script.calm_interface call k
  unfold Context.compiles
  split
  · refine (settles_compile _ _ _).bind (fun code => ?_) fun code hcode v hv => ?_
    · split
      · exact .bind ((steady_settled k).quiet hI.clearError) fun _ => .pure _
      · exact .bind ((steady_settled k).quiet (hI.decref _)) fun _ => .pure _
    · subst hcode
      exact hv.clear call
  · exact .pure _

theorem keeps_setGlobal (name : String) (value : Option Ref) :
    Keeps (Settled k) (c.setGlobal (Script.interface call k) name value) := by
  have hI := Script.calm_interface call k
  unfold Context.setGlobal
  split
  · refine (settles_dictSet _ _ _).bind (fun stored => ?_) fun stored hstored v hv => ?_
    · split
      · exact .pure _
      · exact .bind ((steady_settled k).quiet hI.clearError) fun _ => .pure _
    · subst hstored
      exact hv.clear call
  · exact .pure _

theorem keeps_getAttr (object : Option Ref) (name : String) :
    Keeps (Settled k) (Context.getAttr (Script.interface call k) object name) := by
  have hI := Script.calm_interface call k
  unfold Context.getAttr
  split
  · refine (settles_getAttr _ _).bind (fun value => ?_) fun value hvalue v hv => ?_
    · split
      · exact .bind ((steady_settled k).quiet hI.clearError) fun _ => .pure _
      · exact .pure _
    · subst hvalue
      exact hv.clear call
  · exact .pure _

theorem keeps_setAttr (object : Option Ref) (name : String) (value : Option Ref) :
    Keeps (Settled k) (Context.setAttr (Script.interface call k) object name value) := by
  have hI := Script.calm_interface call k
  unfold Context.setAttr
  split
  · refine (settles_setAttr _ _ _).bind (fun stored => ?_) fun stored hstored v hv => ?_
    · split
      · exact .pure _
      · exact .bind ((steady_settled k).quiet hI.clearError) fun _ => .pure _
    · subst hstored
      exact hv.clear call
  · exact .pure _

variable (hc : ∀ f args, Eval.Keeps (Settled k) (call k f args))
include hc

/-- Running source leaves no error pending, whether errors are shown or hidden. -/
theorem keeps_execute (source : String) (mode : Mode) (showErrors : Bool) :
    Keeps (Settled k) (c.execute (Script.interface call k) source mode showErrors) := by
  have hreport := (steady_settled k).reportError (Script.calm_interface call k)
    fun (_ : showErrors = true) => trivial
  unfold Context.execute
  split
  · refine .bind (keeps_ensureBuiltins c) fun _ => ?_
    refine (settles_runString hc source mode _).bind (fun r => ?_) fun r hr v hv => ?_
    · split
      · exact .bind hreport fun _ => .pure _
      · exact .pure _
    · subst hr
      have hreported := hv.report call showErrors
      rw [if_pos Option.isNone_none, Exec.run_bind]
      generalize (Context.reportError _ _).run v = reported at hreported ⊢
      obtain ⟨_ | _, _⟩ := reported <;> exact hreported
  · exact .pure _

theorem keeps_runSimple (source : String) :
    Keeps (Settled k) (Context.runSimple (Script.interface call k) source) := by
  unfold Context.runSimple
  split
  · change Keeps (Settled k) (Script.runSimple call k source)
    unfold Script.runSimple
    refine .bind ((steady_settled k).quiet (.machine k)) fun machine => ?_
    refine (settles_runString hc source _ _).bind (fun r => ?_) fun r hr v hv => ?_
    · split
      · exact .pure _
      · exact .bind ((steady_settled k).quiet (.printFault k trivial)) fun _ => .pure _
    · subst hr
      exact hv.print
  · exact .pure _

/-- Capturing output, reading what is captured and running a cell leave no error pending. -/
theorem keeps_operations :
    Context.Keeps (Settled k) (Script.interface call k) c where
  execute := keeps_execute c hc
  compiles := keeps_compiles
  getGlobal := (steady_settled k).getGlobal (Script.calm_interface call k) c
  strOf := (steady_settled k).strOf (Script.calm_interface call k)
  reprOf := (steady_settled k).reprOf (Script.calm_interface call k)
  discard := (steady_settled k).discard (Script.calm_interface call k)
  start := by
    have hI := Script.calm_interface call k
    unfold Capture.start
    refine .bind (c.keeps_isCapturing) fun capturing => ?_
    split
    · exact .pure _
    · refine .bind ?_ fun installed => .bind ?_ fun _ => .pure _
      · unfold Capture.install
        refine .bind ((steady_settled k).getGlobal hI c _) fun bound => ?_
        split
        · exact .pure _
        · refine .bind (keeps_execute c hc _ _ _) fun r => ?_
          split
          · exact .bind ((steady_settled k).discard hI _) fun _ => .pure _
          · exact .pure _
      · exact .modify fun w hw => ⟨⟨hw.bound, hw.lt⟩, hw.pending⟩

/-- Every operation of a context leaves no error pending. -/
theorem keeps_perform {magic : Program .directive → Exec Session Directive}
    (hm : ∀ p, Keeps (Settled k) (magic p)) (op : Context.Operation) :
    Keeps (Settled k) (op.perform (Script.interface call k) magic c) := by
  have hops := keeps_operations c hc
  cases op with
  | execute source mode showErrors => exact .bind (keeps_execute c hc _ _ _) fun _ => .pure _
  | run source mode => exact .bind (keeps_execute c hc _ _ _) fun _ => .pure _
  | compiles source mode => exact .bind (keeps_compiles _ _) fun _ => .pure _
  | runSimple source => exact .bind (keeps_runSimple hc _) fun _ => .pure _
  | setGlobal name value => exact .bind (keeps_setGlobal c _ _) fun _ => .pure _
  | getGlobal name => exact .bind (hops.getGlobal _) fun _ => .pure _
  | getAttr object name => exact .bind (keeps_getAttr _ _) fun _ => .pure _
  | setAttr object name value => exact .bind (keeps_setAttr _ _ _) fun _ => .pure _
  | strOf object => exact .bind (hops.strOf _) fun _ => .pure _
  | reprOf object => exact .bind (hops.reprOf _) fun _ => .pure _
  | capture => exact .bind hops.start fun _ => .pure _
  | drain => exact .bind hops.drain fun _ => .pure _
  | all => exact .bind hops.all fun _ => .pure _
  | cell source marker handler =>
    exact .bind (hops.runCell source marker fun _ _ => hm _) fun _ => .pure _

end

end Session

/-! ### Sequences of operations -/

instance Except.decidableExhausted {α : Type} :
    (r : Except Stop α) → Decidable (r = .error .exhausted)
  | .ok _ => .isFalse nofun
  | .error (.panic _) => .isFalse nofun
  | .error .exhausted => .isTrue rfl

namespace Context

/-- Perform an operation with its closures and handlers watched. -/
def Operation.performWatched (n k : Nat) (c : Context) (op : Operation) : Exec Session Outcome :=
  op.perform (Bench.machine (Recursion.watchedCall k n) c.machine)
    (fun p => Session.watch k (Run.program (.level n) p)) c

/-- In the runs of operations every closure and every handler that is reached leaves the pending
error of an interpreter as it found it. -/
def Undisturbed (n k : Nat) : List (Context × Operation) → Session → Prop
  | [], _ => True
  | (c, op) :: rest, w =>
    ((op.performWatched n k c).run w).1 ≠ .error .exhausted ∧
      Undisturbed n k rest ((op.performAt n c).run w).2

instance decidableUndisturbed (n k : Nat) :
    (ops : List (Context × Operation)) → (w : Session) → Decidable (Undisturbed n k ops w)
  | [], _ => .isTrue trivial
  | (c, op) :: rest, w =>
    have := decidableUndisturbed n k rest ((op.performAt n c).run w).2
    inferInstanceAs (Decidable (_ ∧ _))

section

variable {n k : Nat}

theorem keeps_performWatched {c : Context} (hc : c.machine = .scripted k) (op : Operation) :
    Exec.Keeps (Session.Settled k) (op.performWatched n k c) := by
  have hlevel := (Session.stable_bound k).level n
  unfold Operation.performWatched
  rw [hc]
  refine Session.keeps_perform c (Session.keeps_watchedCall k n) (fun p => ?_) op
  exact Session.keeps_watch
    ((Session.stable_bound k).program hlevel p (p.obeys_of_direct trivial))

/-- An operation that the watch does not stop is as it is without the watch. -/
theorem run_performAt {c : Context} {op : Operation} {w : Session}
    (h : ((op.performWatched n k c).run w).1 ≠ .error .exhausted) :
    (op.performAt n c).run w = (op.performWatched n k c).run w := by
  have hextends : Exec.Extends (op.performWatched n k c) (op.performAt n c) :=
    op.perform_extends ((Recursion.watchedCall_extends k n).machine c.machine)
      (fun p => Session.watch_extends (Run.program (.level n) p)) c
  exact (hextends w).resolve_left h

theorem settled_after {ops : List (Context × Operation)}
    (hmachine : ∀ o ∈ ops, o.1.machine = .scripted k) {w : Session} (hw : w.Settled k)
    (hops : Undisturbed n k ops w) {done : List (Context × Operation)} (hdone : done <+: ops) :
    (after n done w).Settled k := by
  induction ops generalizing w done with
  | nil =>
    rw [List.prefix_nil.mp hdone]
    exact hw
  | cons o ops ih =>
    obtain ⟨c, op⟩ := o
    obtain ⟨hfirst, hrest⟩ := hops
    cases done with
    | nil => exact hw
    | cons o' done =>
      obtain ⟨rfl, hrest'⟩ := List.cons_prefix_cons.mp hdone
      refine ih (fun o ho => hmachine o (List.mem_cons_of_mem _ ho)) ?_ hrest hrest'
      rw [run_performAt hfirst]
      exact keeps_performWatched (hmachine _ List.mem_cons_self) op w hw

/-- **No error stays pending.** With no error pending at the start, none is pending after any of a
sequence of operations, each of a context of its own over the interpreter that is bound, as long as
the closures and the handlers that are reached leave the pending error as they found it. An
operation that hides errors writes nothing once its source has been evaluated, and does the same
whatever printing errors does, except where closures of the host print them. -/
theorem pending_after {ops : List (Context × Operation)}
    (hmachine : ∀ o ∈ ops, o.1.machine = .scripted k) {w : Session} (hbound : w.Bound k)
    (hpending : w.pending k = none) (hops : Undisturbed n k ops w) :
    (∀ done, done <+: ops → (after n done w).pending k = none) ∧
      ∀ c op, (c, op) ∈ ops → op.hidesErrors = true →
        (∀ v : Session, (op.evaluated n k c v).outside.store.Unwritten
          ((op.performAt n c).run v).2.outside.store) ∧
        ∀ (printError : MachineId → Quiet Bench.Outside Unit)
          (runSimple : MachineId → String → Exec Session Bool),
          op.perform
              ((Bench.machine (Recursion.callPrinting printError runSimple n) c.machine).printing
                (printError c.machine) (runSimple c.machine))
              (Run.program (.level n)) c =
            op.performAt n c :=
  ⟨fun _ hdone => (settled_after hmachine ⟨hbound, hpending⟩ hops hdone).pending,
    fun c _ hmem hhides => ⟨Operation.unwritten_of_hidesErrors n (hmachine _ hmem) hhides,
      fun printError runSimple => Operation.perform_printing printError runSimple n _ c hhides⟩⟩

end

/-- A state in which the main namespace binds a callable whose closure takes an integer, and the
buffer that output goes to. -/
def serving : Session where
  registry :=
    { slots := #[some ⟨⟨"f"⟩, ⟨.integer, .integer⟩, fun _ => .done (.integer 1)⟩]
      index := [(⟨"f"⟩, 0)] }
  descriptors := { all := #[{ Descriptor.blank with entry := some .router }] }
  bound := some (.scripted 0)
  capturing := #[true]
  outside := {
    store := {
      heap := ⟨#[.dict ⟨[("f", some 3), (Capture.name, some 4)]⟩, .dict ∅, .text "f",
        .callable 0 (some 2), .output {}]⟩
      machines := #[{ main := 0, builtins := 1, sink := some 4 }] }
    rest := {} }

/-- The context over the main namespace of that state. -/
def serviced : Context where
  number := 0
  machine := .scripted 0
  globals := 0

/-- Operations on that state: a call that is refused, its error hidden and shown. -/
def services : List (Context × Operation) :=
  [(serviced, .execute "f('a')" .file false),
    (serviced, .cell "%note f\nf('a')" '%' fun _ argument => .done { inline := some argument })]

/-- The errors of the calls that are refused are dropped or printed, and the one that is dropped is
not written anywhere. -/
theorem pending_after_services :
    (after 2 services serving).pending 0 = none ∧
      ((Operation.execute "f('a')" .file false).evaluated 2 0 serviced
        serving).outside.store.Unwritten (after 2 (services.take 1) serving).outside.store := by
  have hmachine : ∀ o ∈ services, o.1.machine = .scripted 0 := by simp [services, serviced]
  have hops : Undisturbed 2 0 services serving := by decide +kernel
  obtain ⟨hsettled, hhidden⟩ := pending_after hmachine ⟨rfl, by decide⟩ rfl hops
  exact ⟨hsettled services List.prefix_rfl, (hhidden serviced _ List.mem_cons_self rfl).1 serving⟩

end Context

end ClosureBridge
