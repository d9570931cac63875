import ClosureBridge.Proofs.Session.Keeps

/-!
# More levels of nesting

Whatever ends with some levels of nesting left ends the same with more. One computation extends
another when it does what the other does, unless the other nests too deep; what extends is put
together the way computations are.

## Main definitions

* `Exec.Extends`, `Script.Eval.Extends`: one computation extends another.
* `Script.Caller.Extends`: calls of objects extend others.
* `Interpreter.Extends`: running source does, and the other operations are the same.

## Main statements

* `Exec.Extends.bind`, `Exec.Extends.catchPanic`, `Exec.Extends.andFinally`: computations put
  together.
* `Script.Caller.Extends.eval`, `Script.Caller.Extends.invoke`: scripts extend where calls of
  objects do.
* `Script.Caller.Extends.machine`: so do interpreters.
-/

namespace ClosureBridge

namespace Exec

variable {σ α β : Type}

/-- The second computation ends as the first does, unless the first nests too deep. -/
def Extends (m m' : Exec σ α) : Prop :=
  ∀ s, (m.run s).1 = .error .exhausted ∨ m'.run s = m.run s

namespace Extends

theorem refl (m : Exec σ α) : Extends m m :=
  fun _ => .inr rfl

theorem exhausted (m : Exec σ α) : Extends Exec.exhausted m :=
  fun _ => .inl rfl

/-- What has ended ends the same. -/
theorem run_eq {m m' : Exec σ α} (hm : Extends m m') {s s' : σ} {out : Except Stop α}
    (hr : m.run s = (out, s')) (hout : out ≠ .error .exhausted) : m'.run s = (out, s') := by
  rcases hm s with h | h
  · rw [hr] at h
    exact absurd h hout
  · rw [h, hr]

/-- A computation and one that goes on from its result. -/
theorem bind {m m' : Exec σ α} {f f' : α → Exec σ β} (hm : Extends m m')
    (hf : ∀ a, Extends (f a) (f' a)) : Extends (m >>= f) (m' >>= f') := by
  intro s
  rcases hm s with h | h
  · left
    rw [run_bind]
    generalize m.run s = r at h ⊢
    obtain ⟨out, s'⟩ := r
    cases h
    rfl
  · rw [run_bind, run_bind, h]
    rcases m.run s with ⟨e | a, s'⟩
    · exact .inr rfl
    · exact hf a s'

/-- A computation that goes on from the result of one that is the same in both. -/
theorem bind_right (m : Exec σ α) {f f' : α → Exec σ β} (hf : ∀ a, Extends (f a) (f' a)) :
    Extends (m >>= f) (m >>= f') :=
  .bind (.refl m) hf

theorem catchPanic {m m' : Exec σ α} (hm : Extends m m') :
    Extends (Exec.catchPanic m) (Exec.catchPanic m') := by
  intro s
  rw [run_catchPanic, run_catchPanic]
  rcases hm s with h | h
  · left
    generalize m.run s = r at h ⊢
    obtain ⟨out, s'⟩ := r
    cases h
    rfl
  · exact .inr (by rw [h])

theorem andFinally {m m' : Exec σ α} (hm : Extends m m') (after : Exec σ Unit) :
    Extends (Exec.andFinally m after) (Exec.andFinally m' after) :=
  .bind hm.catchPanic fun _ => .refl _

end Extends

end Exec

namespace Script

variable {δ α β : Type}

/-- The second computation of a script ends as the first does, unless the first nests too deep. -/
def Eval.Extends (e e' : Eval δ α) : Prop :=
  Exec.Extends e.run e'.run

namespace Eval.Extends

theorem refl (e : Eval δ α) : Eval.Extends e e :=
  Exec.Extends.refl e.run

theorem exhausted (e : Eval δ α) : Eval.Extends (ExceptT.lift Exec.exhausted) e :=
  fun _ => .inl rfl

theorem bind {e e' : Eval δ α} {f f' : α → Eval δ β} (he : Eval.Extends e e')
    (hf : ∀ a, Eval.Extends (f a) (f' a)) : Eval.Extends (e >>= f) (e' >>= f') := by
  refine Exec.Extends.bind he fun r => ?_
  cases r with
  | ok a => exact hf a
  | error _ => exact .refl _

theorem bind_right (e : Eval δ α) {f f' : α → Eval δ β} (hf : ∀ a, Eval.Extends (f a) (f' a)) :
    Eval.Extends (e >>= f) (e >>= f') :=
  .bind (.refl e) hf

theorem ofExec {e e' : Exec (World (Outside δ)) α} (he : Exec.Extends e e') :
    Eval.Extends (Eval.ofExec e) (Eval.ofExec e') :=
  Exec.Extends.bind he fun _ => .refl _

end Eval.Extends

/-- Calls of objects extend others. -/
def Caller.Extends (call call' : Caller δ) : Prop :=
  ∀ m f args, Eval.Extends (call m f args) (call' m f args)

namespace Caller.Extends

variable {call call' : Caller δ} (hc : call.Extends call')
include hc

theorem callEach (m : Nat) (f : Option Ref) (items : List (Option Ref)) :
    Eval.Extends (Script.callEach call m f items) (Script.callEach call' m f items) := by
  induction items with
  | nil => exact .refl _
  | cons item rest ih => exact .bind (hc m f [item]) fun _ => .bind ih fun _ => .refl _

theorem mapItems (m : Nat) (f items : Option Ref) :
    Eval.Extends (Script.mapItems call m f items) (Script.mapItems call' m f items) := by
  unfold Script.mapItems
  refine .bind_right _ fun o => ?_
  cases o.items? with
  | none => exact .refl _
  | some items => exact .bind (hc.callEach m f items) fun _ => .refl _

theorem builtin (m : Nat) (name : String) (args : List (Option Ref)) :
    Eval.Extends (Script.builtin call m name args) (Script.builtin call' m name args) := by
  unfold Script.builtin
  split
  case h_4 => exact hc.mapItems m _ _
  all_goals exact .refl _

omit hc in
mutual

/-- Evaluating an expression extends where calling an object does. -/
theorem eval (hc : call.Extends call') (m : Nat) (scope : Scope) :
    ∀ e, Eval.Extends (Script.eval call m scope e) (Script.eval call' m scope e)
  | .integer _ => .refl _
  | .float _ => .refl _
  | .text _ => .refl _
  | .name _ => .refl _
  | .list items => .bind (evalAll hc m scope items) fun _ => .refl _
  | .negate e => .bind (eval hc m scope e) fun _ => .refl _
  | .binary _ a b => .bind (eval hc m scope a) fun _ => .bind (eval hc m scope b) fun _ => .refl _
  | .equal a b => .bind (eval hc m scope a) fun _ => .bind (eval hc m scope b) fun _ => .refl _
  | .lambda _ _ => .refl _
  | .call callee args => by
    unfold Script.eval
    refine .bind (evalAll hc m scope args) fun values => ?_
    split
    · refine .bind_right _ fun f => ?_
      cases f with
      | none => exact hc.builtin m _ values
      | some f => exact hc m f values
    · exact .bind (eval hc m scope callee) fun f => hc m f values
  | .method receiver _ args =>
    .bind (eval hc m scope receiver) fun _ =>
      .bind (evalAll hc m scope args) fun _ => .refl _

theorem evalAll (hc : call.Extends call') (m : Nat) (scope : Scope) :
    ∀ es, Eval.Extends (Script.evalAll call m scope es) (Script.evalAll call' m scope es)
  | [] => .refl _
  | e :: rest => .bind (eval hc m scope e) fun _ =>
      .bind (evalAll hc m scope rest) fun _ => .refl _

end

theorem executeOne (m : Nat) (globals : Option Ref) (s : Statement) :
    Eval.Extends (Script.executeOne call m globals s) (Script.executeOne call' m globals s) := by
  cases s with
  | assign name e => exact .bind (hc.eval m _ e) fun _ => .refl _
  | raise kind message => exact .refl _
  | evaluate e => exact .bind (hc.eval m _ e) fun _ => .refl _

theorem execute (m : Nat) (globals : Option Ref) (statements : List Statement) :
    Eval.Extends (Script.execute call m globals statements)
      (Script.execute call' m globals statements) := by
  induction statements with
  | nil => exact .refl _
  | cons s rest ih => exact .bind (hc.executeOne m globals s) fun _ => ih

theorem runText (m : Nat) (globals : Option Ref) (mode : Mode) (text : String) :
    Eval.Extends (Script.runText call m globals mode text)
      (Script.runText call' m globals mode text) := by
  cases mode with
  | eval => exact .bind_right _ fun e => hc.eval m _ e
  | file => exact .bind_right _ fun statements => hc.execute m globals statements
  | single => exact .bind_right _ fun statements => hc.execute m globals statements

/-- Calling an object extends where the calls inside it and entering the router do. -/
theorem invoke {enter enter' : Option Ref → Option Ref → Exec (World (Outside δ)) (Option Ref)}
    (he : ∀ self args, Exec.Extends (enter self args) (enter' self args)) :
    Caller.Extends (Script.invoke enter call) (Script.invoke enter' call') := by
  intro m callable args
  unfold Script.invoke
  refine .bind_right _ fun o => ?_
  split
  · refine .bind_right _ fun descriptors => ?_
    split
    · exact .refl _
    · refine .bind_right _ fun tuple => ?_
      exact .bind (.ofExec (he _ tuple)) fun _ => .refl _
  · split
    · exact .bind_right _ fun machine => hc.eval m _ _
    · exact .refl _
  · exact .refl _

/-! ### Interpreters -/

theorem callObject (m : Nat) (callable : Option Ref) (args : List (Option Ref)) :
    Exec.Extends (Script.callObject call m callable args)
      (Script.callObject call' m callable args) :=
  .bind (hc m callable args) fun _ => .refl _

theorem runString (m : Nat) (source : String) (mode : Mode) (globals : Option Ref) :
    Exec.Extends (Script.runString call m source mode globals)
      (Script.runString call' m source mode globals) := by
  unfold Script.runString
  refine .bind_right _ fun _ => ?_
  split
  · exact .refl _
  · exact .bind (hc.runText m globals mode source) fun _ => .refl _

theorem runSimple (m : Nat) (source : String) :
    Exec.Extends (Script.runSimple call m source) (Script.runSimple call' m source) :=
  .bind_right _ fun _ => .bind (hc.runString m source .file _) fun _ => .refl _

end Caller.Extends

end Script

/-- Running source in the second interpreter extends running it in the first, and the other
operations are the same. -/
inductive Interpreter.Extends {ι : Type} (I : Interpreter ι) : Interpreter ι → Prop where
  | of {runString : String → Mode → Option Ref → Exec (World ι) (Option Ref)}
    {runSimple : String → Exec (World ι) Bool}
    (hs : ∀ source mode globals,
      Exec.Extends (I.runString source mode globals) (runString source mode globals))
    (hr : ∀ source, Exec.Extends (I.runSimple source) (runSimple source)) :
    Extends I { I with runString, runSimple }

theorem Script.Caller.Extends.machine {call call' : Script.Caller Bench} (hc : call.Extends call')
    (m : MachineId) : (Bench.machine call m).Extends (Bench.machine call' m) := by
  cases m with
  | scripted n => exact .of (hc.runString n) (hc.runSimple n)
  | native n textConstructor => exact .of (fun _ _ _ => .refl _) fun _ => .refl _

end ClosureBridge
