import ClosureBridge.Proofs.Context.Compiling
import ClosureBridge.Proofs.Context.Operation

/-!
# What is written where errors are hidden

Text gets into a buffer or onto a console where it is printed, or written to the buffer by name. Of
the operations of an interpreter only printing the pending error does so, besides those that run
source. So an operation that hides errors writes what its source writes while it is evaluated, and
an error that ends the evaluation adds nothing.

## Main definitions

* `Script.Store.text`, `Script.Store.console`: the text in a buffer and on a console.
* `Script.Store.Unwritten`: two stores with the same text everywhere.
* `Context.Operation.evaluated`: the state when the source of an operation has been evaluated.

## Main statements

* `Script.Store.unwritten_after`: events that write no text leave all text as it was.
* `Context.unwritten_entering`: nothing is written before source is evaluated.
* `Context.run_runSimple_of_error`: the interpreter's own way of running source prints an error.
* `Context.Operation.unwritten_of_not_runsSource`: an operation that runs no source writes nothing.
* `Context.Operation.unwritten_of_hidesErrors`: an operation that hides errors writes nothing once
  its source has been evaluated.
-/

namespace ClosureBridge

open Script (Event Fault Machine Object OutputBuffer Store)

/-! ### The text in a store -/

namespace Script.Store

/-- The text in a buffer, and none where there is no buffer. -/
def text (s : Store) (r : Ref) : String :=
  ((s.output? r).map OutputBuffer.text).getD ""

/-- What an interpreter has printed while its output went to no buffer. -/
def console (s : Store) (m : Nat) : String :=
  ((s.machines[m]?).getD default).console

/-- Buffers and consoles hold what they held; new ones are empty. -/
structure Unwritten (s t : Store) : Prop where
  text : ∀ r, t.text r = s.text r
  console : ∀ m, t.console m = s.console m

namespace Unwritten

variable {s t u : Store}

theorem refl (s : Store) : s.Unwritten s where
  text _ := rfl
  console _ := rfl

theorem trans (h : s.Unwritten t) (h' : t.Unwritten u) : s.Unwritten u where
  text r := (h'.text r).trans (h.text r)
  console m := (h'.console m).trans (h.console m)

end Unwritten

theorem console_modifying (s : Store) (k : Nat) {f : Machine → Machine}
    (hf : ∀ x, (f x).console = x.console) (m : Nat) :
    (s.modifying k f).console m = s.console m := by
  rw [console, console, modifying, Array.getElem?_modify]
  split
  · cases s.machines[m]? with
    | none => rfl
    | some x => exact hf x
  · rfl

theorem console_changing (s : Store) (r : Ref) (f : Object → Option Object) (m : Nat) :
    (s.changing r f).console m = s.console m := by
  unfold changing
  split <;> rfl

/-- A new interpreter has printed nothing. -/
theorem console_adding (s : Store) (textConstructor : Bool) (m : Nat) :
    (s.adding textConstructor).console m = s.console m := by
  rw [console, console, adding, Array.getElem?_push]
  split
  · next hm =>
    rw [hm, Array.getElem?_eq_none (Nat.le_refl _)]
    rfl
  · rfl

/-- An event that writes no text leaves all text as it was. -/
theorem unwritten_apply (s : Store) {e : Event} (he : e.isWrite = false) :
    s.Unwritten (e.apply s) where
  text r := by
    rw [text, text, output?_apply]
    cases e with
    | wrote => cases he
    | printed => cases he
    | opened =>
      rw [Event.onOutput]
      split
      · next hr =>
        rw [hr, output?_size]
        rfl
      · rfl
    | marked buffer =>
      rw [Event.onOutput]
      split
      · cases s.output? r <;> rfl
      · rfl
    | _ => rfl
  console m := by
    cases e with
    | wrote => cases he
    | printed => cases he
    | bound scope name value => exact s.console_changing scope _ m
    | attributed target name value => exact s.console_changing target _ m
    | marked buffer => exact s.console_changing buffer _ m
    | pended k fault =>
      rw [Event.apply, console_modifying]
      exact fun _ => rfl
    | ran k source =>
      rw [Event.apply, console_modifying]
      exact fun _ => rfl
    | redirected k sink =>
      rw [Event.apply, console_modifying]
      exact fun _ => rfl
    | added textConstructor => exact s.console_adding textConstructor m
    | _ => rfl

/-- Events that write no text leave all text as it was. -/
theorem unwritten_after (s : Store) {es : List Event} (he : ∀ e ∈ es, e.isWrite = false) :
    s.Unwritten (s.after es) := by
  induction es generalizing s with
  | nil => exact .refl s
  | cons e es ih =>
    have hfirst := s.unwritten_apply (he e List.mem_cons_self)
    exact hfirst.trans (ih _ fun e' he' => he e' (List.mem_cons_of_mem e he'))

end Script.Store

/-- That nothing has been written is kept by the operations that write no text, whatever errors they
raise. -/
theorem Session.steady_unwritten (s : Store) :
    Steady True False fun w => s.Unwritten w.outside.store where
  emit he hes _ hw := by
    have hwrite := fun e h => Bool.eq_false_iff.mpr (he e h).write
    rw [hes]
    exact hw.trans (Store.unwritten_after _ hwrite)

namespace Context

variable {call : Script.Caller Bench} {k n : Nat} {c : Context} {w v : Session} {source : String}
  {f : Fault}

/-! ### Running source -/

theorem unwritten_raising (w : Session) (k : Nat) (f : Fault) :
    w.outside.store.Unwritten (w.raising k f).outside.store :=
  w.outside.store.unwritten_apply (e := .pended k (some f)) rfl

/-- Nothing is written before source is evaluated. -/
theorem unwritten_entering (c : Context) (k : Nat) (w : Session) (source : String) :
    w.outside.store.Unwritten (w.happening (entering c k w source)).outside.store := by
  have hprepared := (Session.steady_unwritten w.outside.store).ensureBuiltins
    (Script.calm_interface (Recursion.level 0).call k) c w (.refl _)
  rw [run_ensureBuiltins] at hprepared
  rw [entering, Session.happening_append]
  exact hprepared.trans (Store.unwritten_after _ (by simp [Event.isWrite]))

/-- An error that is dropped leaves nothing written. -/
theorem unwritten_reportError (v : Session) :
    v.outside.store.Unwritten ((reportError (Script.interface call k) false >>= fun _ =>
      (pure none : Exec Session (Option Ref))).run v).2.outside.store :=
  have hkeeps := (Session.steady_unwritten v.outside.store).reportError
    (Script.calm_interface call k) fun (h : false = true) => absurd h Bool.false_ne_true
  hkeeps.bind (fun _ => .pure _) v (.refl _)

/-- Where errors are hidden nothing is written once source has been evaluated. -/
theorem unwritten_execute (hnul : Image.crosses source = true)
    (hne : (source == Capture.source) = false) (mode : Mode) (w : Session) :
    ((Script.runText call k c.globals mode source).run.run
        (w.happening (entering c k w source))).2.outside.store.Unwritten
      ((c.execute (Script.interface call k) source mode false).run w).2.outside.store := by
  rw [run_execute_eq hnul hne]
  rcases (Script.runText call k c.globals mode source).run.run
    (w.happening (entering c k w source)) with ⟨stop | f | _ | r, v⟩
  · exact .refl _
  · exact (unwritten_raising v k f).trans (unwritten_reportError _)
  · exact unwritten_reportError v
  · exact .refl _

/-- Nothing is written where no source is evaluated: the source that captures output only puts the
buffer in place, and a NUL keeps source from being run. -/
theorem unwritten_execute_of_not
    (h : ¬(Image.crosses source && source != Capture.source) = true) (mode : Mode) (w : Session) :
    w.outside.store.Unwritten
      ((c.execute (Script.interface call k) source mode false).run w).2.outside.store := by
  have hP := Session.steady_unwritten w.outside.store
  by_cases hnul : Image.crosses source = true
  · have hsource : source = Capture.source := by
      by_contra hne
      exact h (Bool.and_eq_true_iff.mpr ⟨hnul, bne_iff_ne.mpr hne⟩)
    have hinstall (scope : Option Ref) :
        Exec.Keeps (fun v : Session => w.outside.store.Unwritten v.outside.store)
          ((Script.interface call k).runString source mode scope) := by
      rw [hsource]
      exact hP.runCapture k mode scope
    exact hP.execute (Script.calm_interface call k) c hinstall
      (fun h => absurd h Bool.false_ne_true) w (.refl _)
  · unfold execute
    rw [if_neg hnul]
    exact .refl _

/-- The interpreter's own way of running source prints the traceback of an error. -/
theorem run_runSimple_of_error (hk : k < w.outside.store.machines.size)
    (hnul : Image.crosses source = true) (hne : (source == Capture.source) = false)
    (h : (Script.runText (Recursion.level n).call k
      (some ((w.outside.store.machines[k]?).getD default).main) .file source).run.run
        (w.happening [.ran k source]) = (.ok (.error f), v)) :
    (runSimple (Script.interface (Recursion.level n).call k) source).run w =
      (.ok false, v.happening (reporting k f true)) := by
  have hu : k < (w.happening [.ran k source]).outside.store.machines.size :=
    (Store.grows_after _ _).lt_machines hk
  have hv : k < v.outside.store.machines.size := lt_machines_of_run n hu _ _ h
  have hrun : (Script.runString (Recursion.level n).call k source .file
      (some ((w.outside.store.machines[k]?).getD default).main)).run w =
        (.ok none, v.raising k f) := by
    have heq := @run_runString_eq (Recursion.level n).call k source hne .file
      (some ((w.outside.store.machines[k]?).getD default).main) w
    rw [Exec.run_bind_of_ok h] at heq
    exact heq
  unfold runSimple
  rw [if_pos hnul]
  change (Script.runSimple (Recursion.level n).call k source).run w = _
  unfold Script.runSimple
  rw [Exec.run_bind_of_ok (Quiet.run_run _ _)]
  change (Script.runString (Recursion.level n).call k source .file
    (some ((w.outside.store.machines[k]?).getD default).main) >>= _).run w = _
  rw [Exec.run_bind_of_ok hrun, if_neg (by simp), Exec.run_bind_of_ok (run_printFault hv f)]
  rfl

namespace Operation

variable {op : Operation}

/-- Whether an operation may run source. -/
def runsSource : Operation → Bool
  | compiles _ _ => false
  | setGlobal _ _ => false
  | getGlobal _ => false
  | getAttr _ _ => false
  | setAttr _ _ _ => false
  | strOf _ => false
  | reprOf _ => false
  | _ => true

/-- The state when the source of an operation has been evaluated, if it evaluates any. -/
def evaluated (n k : Nat) (c : Context) (w : Session) : Operation → Session
  | execute source mode _ =>
    if Image.crosses source && source != Capture.source then
      ((Script.runText (Recursion.level n).call k c.globals mode source).run.run
        (w.happening (entering c k w source))).2
    else w
  | _ => w

/-- **An operation that runs no source writes nothing**, over any interpreter, even if it fails. -/
theorem unwritten_of_not_runsSource (n : Nat) (c : Context) (h : op.runsSource = false)
    (w : Session) : w.outside.store.Unwritten ((op.performAt n c).run w).2.outside.store := by
  have hP := Session.steady_unwritten w.outside.store
  have hI := Bench.calm_machine (Recursion.level n).call c.machine
  have hkeeps : Exec.Keeps (fun v : Session => w.outside.store.Unwritten v.outside.store)
      (op.performAt n c) := by
    cases op with
    | compiles source mode => exact .bind (hP.compiles hI _ _) fun _ => .pure _
    | setGlobal name value => exact .bind (hP.setGlobal hI c _ _) fun _ => .pure _
    | getGlobal name => exact .bind (hP.getGlobal hI c _) fun _ => .pure _
    | getAttr object name => exact .bind (hP.getAttr hI _ _) fun _ => .pure _
    | setAttr object name value => exact .bind (hP.setAttr hI _ _ _) fun _ => .pure _
    | strOf object => exact .bind (hP.strOf hI _) fun _ => .pure _
    | reprOf object => exact .bind (hP.reprOf hI _) fun _ => .pure _
    | _ => cases h
  exact hkeeps w (.refl _)

/-- What running source gives does not change the state any more. -/
theorem snd_run_execute (hm : c.machine = .scripted k) (mode : Mode) (showErrors : Bool)
    (w : Session) :
    (((execute source mode showErrors).performAt n c).run w).2 =
      ((c.execute (Script.interface (Recursion.level n).call k) source mode showErrors).run
        w).2 := by
  rw [performAt, hm]
  change ((c.execute (Script.interface _ k) source mode showErrors >>= fun r =>
    pure (Outcome.object r)).run w).2 = _
  rw [Exec.run_bind]
  rcases (c.execute (Script.interface _ k) source mode showErrors).run w with ⟨_ | _, _⟩ <;> rfl

/-- **An operation that hides errors writes nothing once its source has been evaluated**, whether
the evaluation ends with an error or not. -/
theorem unwritten_of_hidesErrors (n : Nat) (hm : c.machine = .scripted k)
    (h : op.hidesErrors = true) (w : Session) :
    (op.evaluated n k c w).outside.store.Unwritten
      ((op.performAt n c).run w).2.outside.store := by
  cases op with
  | execute source mode showErrors =>
    obtain rfl : showErrors = false := by simpa [hidesErrors] using h
    rw [snd_run_execute hm, evaluated]
    split
    · next hruns =>
      obtain ⟨hnul, hne⟩ := Bool.and_eq_true_iff.mp hruns
      exact unwritten_execute hnul (beq_eq_false_iff_ne.mpr (bne_iff_ne.mp hne)) mode w
    · next hruns => exact unwritten_execute_of_not hruns mode w
  | compiles | setGlobal | getGlobal | getAttr | setAttr =>
    exact unwritten_of_not_runsSource n c rfl w
  | _ => cases h

end Operation

end Context

end ClosureBridge
