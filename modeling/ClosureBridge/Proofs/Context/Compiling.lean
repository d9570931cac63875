import ClosureBridge.Proofs.Interpreter.Naming

/-!
# Compiling and running

Source text is read before any of it is run, in each mode by the reader that also compiles it. What
does not compile is therefore not run at all, and what compiles fails only where a statement of it
does.

## Main definitions

* `Script.Code`: source text that has been read.
* `Script.Executes`: statements that are executed one after the other without an error.
* `Script.Code.Gives`, `Script.Code.Raises`: what comes of running what was read.

## Main statements

* `Script.run_execute_eq_error_iff`: statements fail at the first that raises an error.
* `Context.compiles_decides_execute`: what does not compile is not run, and what compiles fails only
  while it runs.
-/

namespace ClosureBridge

open Script (Eval Event Expr Fault Statement Store SyntaxFault)

namespace Script

/-! ### What was read -/

/-- Source text that has been read: an expression, or statements. -/
inductive Code where
  | expression (e : Expr)
  | block (statements : List Statement)

namespace Code

/-- What a text is read as. -/
def ofText (mode : Mode) (text : String) : Except SyntaxFault Code :=
  match mode with
  | .eval => (Expr.ofText text.toList).map expression
  | _ => (Statement.block text.toList).map block

/-- Run what was read in a namespace. -/
def run {δ : Type} (call : Caller δ) (k : Nat) (globals : Option Ref) :
    Code → Eval δ (Option Ref)
  | expression e => eval call k ⟨globals, ∅⟩ e
  | block statements => execute call k globals statements

end Code

/-- Text is compiled by reading it. -/
theorem check_eq (mode : Mode) (text : String) :
    check mode text = (Code.ofText mode text).map fun _ => () := by
  cases mode with
  | eval =>
    change (Expr.ofText text.toList).map _ = ((Expr.ofText text.toList).map _).map _
    cases Expr.ofText text.toList <;> rfl
  | file | single =>
    change (Statement.block text.toList).map _ = ((Statement.block text.toList).map _).map _
    cases Statement.block text.toList <;> rfl

/-- Text is run by reading all of it first. -/
theorem runText_eq {δ : Type} (call : Caller δ) (k : Nat) (globals : Option Ref) (mode : Mode)
    (text : String) :
    runText call k globals mode text =
      readable (Code.ofText mode text) >>= Code.run call k globals := by
  cases mode with
  | eval =>
    change (readable (Expr.ofText text.toList) >>= _) =
      readable ((Expr.ofText text.toList).map _) >>= _
    cases Expr.ofText text.toList <;> rfl
  | file | single =>
    change (readable (Statement.block text.toList) >>= _) =
      readable ((Statement.block text.toList).map _) >>= _
    cases Statement.block text.toList <;> rfl

/-! ### What comes of running it -/

variable {call : Caller Bench} {k : Nat} {globals : Option Ref} {u v w w' : Session}

/-- Statements are executed one after the other, and none raises an error. -/
inductive Executes (call : Caller Bench) (k : Nat) (globals : Option Ref) :
    List Statement → Session → Session → Prop where
  | nil (w : Session) : Executes call k globals [] w w
  | cons {s : Statement} {rest : List Statement} {u v w : Session}
      (h : (executeOne call k globals s).run.run u = (.ok (.ok ()), v))
      (h' : Executes call k globals rest v w) : Executes call k globals (s :: rest) u w

theorem run_execute_of_executes {before : List Statement}
    (h : Executes call k globals before u v) (rest : List Statement) :
    (execute call k globals (before ++ rest)).run.run u =
      (execute call k globals rest).run.run v := by
  induction h with
  | nil => rfl
  | cons h _ ih =>
    rw [List.cons_append, execute, Eval.run_bind_of_ok h]
    exact ih

/-- Statements that are executed give an object: the one that stands for nothing. -/
theorem run_execute_eq_ok_iff {statements : List Statement} {r : Option Ref} :
    (execute call k globals statements).run.run w = (.ok (.ok r), w') ↔
      ∃ v, Executes call k globals statements w v ∧
        r = some v.outside.store.heap.objects.size ∧ w' = v.making .none := by
  constructor
  · intro h
    induction statements generalizing w with
    | nil =>
      cases h
      exact ⟨w, .nil w, rfl, rfl⟩
    | cons s rest ih =>
      obtain ⟨⟨⟩, u, hs, hrest⟩ := Eval.exists_of_run_bind h
      obtain ⟨v, hv, hr⟩ := ih hrest
      exact ⟨v, .cons hs hv, hr⟩
  · rintro ⟨v, hv, rfl, rfl⟩
    have hrun := run_execute_of_executes hv []
    rw [List.append_nil] at hrun
    exact hrun

/-- What raises an error does so at one of its steps. -/
theorem Eval.of_run_bind_error {α β : Type} {m : Eval Bench α} {g : α → Eval Bench β} {f : Fault}
    (h : (m >>= g).run.run w = (.ok (.error f), w')) :
    m.run.run w = (.ok (.error f), w') ∨
      ∃ a v, m.run.run w = (.ok (.ok a), v) ∧ (g a).run.run v = (.ok (.error f), w') := by
  have hbind : (m >>= g).run.run w = (m.run >>= ExceptT.bindCont g).run w := rfl
  rw [hbind, Exec.run_bind] at h
  rcases hm : m.run.run w with ⟨_ | _ | a, v⟩
  · rw [hm] at h
    cases h
  · rw [hm] at h
    cases h
    exact .inl rfl
  · rw [hm] at h
    exact .inr ⟨a, v, rfl, h⟩

/-- Statements fail at the first that raises an error; those after it are not executed. -/
theorem run_execute_eq_error_iff {statements : List Statement} {f : Fault} :
    (execute call k globals statements).run.run w = (.ok (.error f), w') ↔
      ∃ before s after v, statements = before ++ s :: after ∧
        Executes call k globals before w v ∧
        (executeOne call k globals s).run.run v = (.ok (.error f), w') := by
  constructor
  · intro h
    induction statements generalizing w with
    | nil => cases h
    | cons s rest ih =>
      rcases Eval.of_run_bind_error h with hs | ⟨⟨⟩, u, hs, hrest⟩
      · exact ⟨[], s, rest, w, rfl, .nil w, hs⟩
      · obtain ⟨before, s', after, v, rfl, hbefore, hs'⟩ := ih hrest
        exact ⟨s :: before, s', after, v, rfl, .cons hs hbefore, hs'⟩
  · rintro ⟨before, s, after, v, rfl, hbefore, hs⟩
    rw [run_execute_of_executes hbefore]
    exact Eval.run_bind_of_error hs

namespace Code

/-- What was read is evaluated without an error, and gives what is at a reference. -/
def Gives (call : Caller Bench) (k : Nat) (globals : Option Ref) (w : Session) (r : Option Ref)
    (w' : Session) : Code → Prop
  | expression e => (eval call k ⟨globals, ∅⟩ e).run.run w = (.ok (.ok r), w')
  | block statements => ∃ v, Executes call k globals statements w v ∧
      r = some v.outside.store.heap.objects.size ∧ w' = v.making .none

/-- The evaluation of the expression that was read raises an error, or that of one of the
statements does, those before it being executed. -/
def Raises (call : Caller Bench) (k : Nat) (globals : Option Ref) (w : Session) (f : Fault)
    (w' : Session) : Code → Prop
  | expression e => (eval call k ⟨globals, ∅⟩ e).run.run w = (.ok (.error f), w')
  | block statements => ∃ before s after v, statements = before ++ s :: after ∧
      Executes call k globals before w v ∧
      (executeOne call k globals s).run.run v = (.ok (.error f), w')

theorem run_eq_ok_iff {code : Code} {r : Option Ref} :
    (code.run call k globals).run.run w = (.ok (.ok r), w') ↔
      code.Gives call k globals w r w' := by
  cases code with
  | expression e => exact Iff.rfl
  | block statements => exact run_execute_eq_ok_iff

theorem run_eq_error_iff {code : Code} {f : Fault} :
    (code.run call k globals).run.run w = (.ok (.error f), w') ↔
      code.Raises call k globals w f w' := by
  cases code with
  | expression e => exact Iff.rfl
  | block statements => exact run_execute_eq_error_iff

end Code

end Script

/-! ### Contexts -/

namespace Context

variable {call : Script.Caller Bench} {k : Nat} {c : Context} {w w' v : Session}
  {source : String} {f : Fault}

/-- The error of writing to a namespace that is none. -/
def noNamespace : Fault :=
  .system "bad argument to internal function"

/-- What happens before source is run: the built-in names are bound unless they are, where there is
a namespace. -/
def preparing (c : Context) (k : Nat) (w : Session) : List Event :=
  match w.outside.store.heap.get (some c.globals) with
  | .dict _ => Capture.upkeep c k w
  | _ => [.pended k (some noNamespace), .pended k none]

theorem run_ensureBuiltins (c : Context) (w : Session) :
    (c.ensureBuiltins (Script.interface call k)).run w =
      (.ok (), w.happening (preparing c k w)) := by
  by_cases hdict : ∃ names, w.outside.store.heap.get (some c.globals) = .dict names
  · obtain ⟨names, hnames⟩ := hdict
    rw [preparing, hnames]
    exact Capture.run_ensureBuiltins hnames
  · have hunbound : w.outside.store.binding? c.globals builtinsName = none := by
      rw [Store.binding?]
      cases hget : w.outside.store.heap.get (some c.globals) with
      | dict names => exact absurd ⟨names, hget⟩ hdict
      | _ => rfl
    have hbuiltins : (Script.interface call k).builtins.run.run w =
        (.ok (some ((w.outside.store.machines[k]?).getD default).builtins), w) := rfl
    have hset (value : Option Ref) : ((Script.interface call k).dictSet (some c.globals)
        builtinsName value).run.run w = (.ok false, w.raising k noNamespace) := by
      change (Script.dictSet k (some c.globals) builtinsName value).run.run w = _
      unfold Script.dictSet
      rw [Quiet.run_run, Quiet.run_bind, Script.bind_of_not_dict (not_exists.mp hdict)]
      rfl
    unfold ensureBuiltins
    rw [Exec.run_bind_of_ok (Capture.run_dictGet _), hunbound]
    change (do
      let builtins ← (Script.interface call k).builtins.run
      if builtins.isSome then
        unless ← ((Script.interface call k).dictSet (some c.globals) builtinsName builtins).run do
          (Script.interface call k).clearError.run : Exec Session Unit).run w = _
    rw [Exec.run_bind_of_ok hbuiltins, if_pos Option.isSome_some, Exec.run_bind_of_ok (hset _)]
    have hpreparing : preparing c k w = [.pended k (some noNamespace), .pended k none] := by
      unfold preparing
      split
      · next names hnames => exact absurd ⟨names, hnames⟩ hdict
      · rfl
    rw [hpreparing]
    rfl

/-- What happens when an error is reported: it is pending, and dropped, and shown or not. -/
def reporting (k : Nat) (f : Fault) (showErrors : Bool) : List Event :=
  .pended k (some f) :: .pended k none :: if showErrors then [.printed k f.traceback] else []

theorem pending_raising (hk : k < w.outside.store.machines.size) (f : Fault) :
    (((w.raising k f).outside.store.machines[k]?).getD default).pending = some f := by
  obtain ⟨x, hx, hxf⟩ := Option.bind_eq_some_iff.mp (Session.pending_raising hk f)
  rw [hx]
  exact hxf

/-- An error that is printed is pending no more, and its traceback is written. -/
theorem run_printFault (hk : k < w.outside.store.machines.size) (f : Fault) :
    (Script.printFault k).run.run (w.raising k f) = (.ok (), w.happening (reporting k f true)) := by
  have htake : ReaderT.run (Store.takeFault k) (w.raising k f).descriptors
      (w.raising k f).outside =
        (some f, (w.happening [.pended k (some f), .pended k none]).outside) := by
    have hrun : ReaderT.run (Store.takeFault k) (w.raising k f).descriptors
        (w.raising k f).outside =
          ((((w.raising k f).outside.store.machines[k]?).getD default).pending,
            (w.happening [.pended k (some f), .pended k none]).outside) := rfl
    rw [hrun, pending_raising hk]
  unfold Script.printFault
  rw [Quiet.run_run, Quiet.run_bind, htake]
  dsimp only
  rw [Store.run_write]
  rfl

theorem run_reportError (hk : k < w.outside.store.machines.size) (f : Fault) (showErrors : Bool) :
    (reportError (Script.interface call k) showErrors).run (w.raising k f) =
      (.ok (), w.happening (reporting k f showErrors)) := by
  cases showErrors with
  | false => exact Session.run_reportError_raising hk f
  | true =>
    have hoccurred : (Script.interface call k).errorOccurred.run.run (w.raising k f) =
        (.ok true, w.raising k f) := by
      have hrun : (Script.interface call k).errorOccurred.run.run (w.raising k f) =
          (.ok (((w.raising k f).outside.store.machines[k]?).getD default).pending.isSome,
            w.raising k f) := rfl
      rw [hrun, pending_raising hk]
      rfl
    unfold reportError
    rw [Exec.run_bind_of_ok hoccurred]
    exact run_printFault hk f

/-- What happens before text is read to be run. -/
def entering (c : Context) (k : Nat) (w : Session) (source : String) : List Event :=
  preparing c k w ++ [.ran k source]

theorem run_runString_eq (hne : (source == Capture.source) = false) (mode : Mode)
    (globals : Option Ref) (w : Session) :
    ((Script.interface call k).runString source mode globals).run w =
      ((Script.runText call k globals mode source).run >>= fun
        | .ok r => pure r
        | .error f => do
          (Store.raise k f).run
          return none : Exec Session (Option Ref)).run (w.happening [.ran k source]) := by
  change (Script.runString call k source mode globals).run w = _
  unfold Script.runString
  rw [Exec.run_bind_of_ok (Quiet.run_run _ _), hne, if_neg Bool.false_ne_true]
  rfl

/-- Source is run as text, and an error of it is reported. -/
theorem run_execute_eq (hnul : Image.crosses source = true)
    (hne : (source == Capture.source) = false) (mode : Mode) (showErrors : Bool) (w : Session) :
    (c.execute (Script.interface call k) source mode showErrors).run w =
      match (Script.runText call k c.globals mode source).run.run
        (w.happening (entering c k w source)) with
      | (.ok (.ok (some r)), v) => (.ok (some r), v)
      | (.ok (.ok none), v) =>
        (reportError (Script.interface call k) showErrors >>= fun _ => pure none).run v
      | (.ok (.error f), v) =>
        (reportError (Script.interface call k) showErrors >>= fun _ => pure none).run
          (Session.raising v k f)
      | (.error stop, v) => (.error stop, v) := by
  unfold execute
  rw [if_pos hnul, Exec.run_bind_of_ok (run_ensureBuiltins c w), Exec.run_bind,
    run_runString_eq hne, Exec.run_bind, entering, Session.happening_append]
  rcases (Script.runText call k c.globals mode source).run.run
    ((w.happening (preparing c k w)).happening [.ran k source]) with ⟨stop | f | _ | r, v⟩
  · rfl
  · rfl
  · rfl
  · rfl

/-- An interpreter is still there after text has been run. -/
theorem lt_machines_of_run (n : Nat) (hk : k < w.outside.store.machines.size) (mode : Mode)
    (globals : Option Ref) {r : Except Stop (Except Fault (Option Ref))}
    (h : (Script.runText (Recursion.level n).call k globals mode source).run.run w = (r, v)) :
    k < v.outside.store.machines.size := by
  have hP := Session.stable_reaches_of_direct trivial w
  have hkeeps := hP.steady.calm.runText ((hP.level n).call k) globals mode source
  have hreaches : Session.Reaches True w v := by
    have hv := hkeeps w .refl
    rwa [h] at hv
  exact (Session.grows_of_reaches hreaches).lt_machines hk

/-- What happens when text is refused that was to be run. -/
def refusing (c : Context) (k : Nat) (w : Session) (source : String) (f : Fault)
    (showErrors : Bool) : List Event :=
  entering c k w source ++ reporting k f showErrors

/-- Text that cannot be read is not run. -/
theorem run_execute_of_ofText_error (hk : k < w.outside.store.machines.size)
    (hnul : Image.crosses source = true) (hne : (source == Capture.source) = false) {mode : Mode}
    {e : SyntaxFault} (h : Script.Code.ofText mode source = .error e) (showErrors : Bool) :
    (c.execute (Script.interface call k) source mode showErrors).run w =
      (.ok none, w.happening (refusing c k w source e.fault showErrors)) := by
  have htext : (Script.runText call k c.globals mode source).run.run
      (w.happening (entering c k w source)) =
        (.ok (.error e.fault), w.happening (entering c k w source)) := by
    rw [Script.runText_eq, h]
    rfl
  have hlt : k < (w.happening (entering c k w source)).outside.store.machines.size :=
    (w.outside.store.grows_after _).lt_machines hk
  rw [run_execute_eq hnul hne, htext, refusing, Session.happening_append]
  exact Exec.run_bind_of_ok (run_reportError hlt e.fault showErrors)

/-- The name of the built-in names is free in the namespace of a context. -/
def Lacks (c : Context) (w : Session) (scope : Ref) (x : String) : Prop :=
  scope = c.globals ∧ x = builtinsName ∧ (w.outside.store.heap.get (some scope)).names?.isSome ∧
    (w.outside.store.binding? scope x).join = none

instance (c : Context) (w : Session) (scope : Ref) (x : String) : Decidable (Lacks c w scope x) :=
  inferInstanceAs (Decidable (_ ∧ _ ∧ _ ∧ _))

/-- Before source is run the name of the built-in names is bound where it is free, and no other. -/
theorem binding?_preparing (c : Context) (k : Nat) (w : Session) (scope : Ref) (x : String) :
    (w.happening (preparing c k w)).outside.store.binding? scope x =
      if Lacks c w scope x then
        some (some ((w.outside.store.machines[k]?).getD default).builtins)
      else w.outside.store.binding? scope x := by
  unfold preparing
  split
  · next names hnames =>
    by_cases hscope : scope = c.globals
    · have htended := SourceLambda.tended_upkeep (k := k) hnames x
      rw [hscope, htended]
      refine if_congr ⟨fun h => ⟨rfl, h.1, ?_, h.2⟩, fun h => ⟨h.2.1, h.2.2.2⟩⟩ rfl rfl
      rw [hnames]
      rfl
    · rw [if_neg fun h => hscope h.1, Capture.upkeep]
      split
      · change ((Event.bound _ _ _).apply w.outside.store).binding? scope x = _
        rw [Store.binding?, Event.apply, Store.get_changing _ _ rfl, if_neg hscope]
        rfl
      · rfl
  · next hdict =>
    rw [if_neg]
    · rfl
    · rintro ⟨rfl, -, hnames, -⟩
      cases hget : w.outside.store.heap.get (some c.globals) with
      | dict names => exact hdict names hget
      | _ =>
        rw [hget] at hnames
        cases hnames

/-- Reporting an error binds no name. -/
theorem binding?_reporting (w : Session) (k : Nat) (f : Fault) (showErrors : Bool) (scope : Ref)
    (x : String) :
    (w.happening (reporting k f showErrors)).outside.store.binding? scope x =
      w.outside.store.binding? scope x := by
  cases showErrors with
  | false => rfl
  | true =>
    change ((Event.printed k f.traceback).apply _).binding? scope x = _
    rw [Event.apply, Store.printing]
    split
    · rfl
    · next r _ =>
      refine (Store.binding?_changing _ r rfl (fun o => ?_) scope x).trans rfl
      cases o <;> rfl

/-- Text that has been read is run as what it was read as. -/
theorem run_runText_of_ofText {mode : Mode} {code : Script.Code} (w : Session)
    (h : Script.Code.ofText mode source = .ok code) (globals : Option Ref) :
    (Script.runText call k globals mode source).run.run w =
      (code.run call k globals).run.run w := by
  rw [Script.runText_eq, h]
  rfl

theorem run_compiles_of_error (hnul : Image.crosses source = true) {mode : Mode} {e : SyntaxFault}
    (h : Script.Code.ofText mode source = .error e) (u : Session) :
    ((Script.interface call k).compile source inputName mode).run.run u =
        (.ok none, u.raising k e.fault) ∧
      (compiles (Script.interface call k) source mode).run u =
        (.ok false, u.happening [.pended k (some e.fault), .pended k none]) := by
  have hcompile : ((Script.interface call k).compile source inputName mode).run.run u =
      (.ok none, u.raising k e.fault) := by
    change (Script.compile k source mode).run.run u = _
    unfold Script.compile
    rw [Script.check_eq, h]
    rfl
  refine ⟨hcompile, ?_⟩
  unfold compiles
  rw [if_pos hnul, Exec.run_bind_of_ok hcompile]
  rfl

theorem run_compiles_of_ok (hnul : Image.crosses source = true) {mode : Mode} {code : Script.Code}
    (h : Script.Code.ofText mode source = .ok code) (u : Session) :
    (compiles (Script.interface call k) source mode).run u = (.ok true, u.making .code) := by
  have hcompile : ((Script.interface call k).compile source inputName mode).run.run u =
      (.ok (some u.outside.store.heap.objects.size), u.making .code) := by
    change (Script.compile k source mode).run.run u = _
    unfold Script.compile
    rw [Script.check_eq, h]
    rfl
  unfold compiles
  rw [if_pos hnul, Exec.run_bind_of_ok hcompile]
  rfl

/-- Source is run as what it was read as. An error that is raised is reported, and so is whatever is
pending when there is no object. -/
theorem run_execute_of_ofText_ok (n : Nat) (hk : k < w.outside.store.machines.size)
    (hnul : Image.crosses source = true) (hne : (source == Capture.source) = false) {mode : Mode}
    {code : Script.Code} (h : Script.Code.ofText mode source = .ok code) (showErrors : Bool) :
    (c.execute (Script.interface (Recursion.level n).call k) source mode showErrors).run w =
      match (code.run (Recursion.level n).call k c.globals).run.run
        (w.happening (entering c k w source)) with
      | (.ok (.ok (some r)), v) => (.ok (some r), v)
      | (.ok (.ok none), v) => (.ok none,
        ((reportError (Script.interface (Recursion.level n).call k) showErrors).run v).2)
      | (.ok (.error f), v) => (.ok none, Session.happening v (reporting k f showErrors))
      | (.error stop, v) => (.error stop, v) := by
  have hrun := @run_runText_of_ofText (Recursion.level n).call k source mode code
    (w.happening (entering c k w source)) h c.globals
  have hlt : k < (w.happening (entering c k w source)).outside.store.machines.size :=
    (w.outside.store.grows_after _).lt_machines hk
  rw [run_execute_eq hnul hne, hrun]
  rcases hr : (code.run (Recursion.level n).call k c.globals).run.run
    (w.happening (entering c k w source)) with ⟨stop | f | _ | r, v⟩
  · rfl
  · have hlt' : k < v.outside.store.machines.size :=
      lt_machines_of_run n hlt mode c.globals (hrun.trans hr)
    exact Exec.run_bind_of_ok (run_reportError hlt' f showErrors)
  · obtain ⟨u, hu⟩ := exists_run_reportError (Recursion.level n).call k showErrors v
    dsimp only
    rw [Exec.run_bind_of_ok hu, hu]
    rfl
  · rfl

/-- Source gives an object just when what was read does. -/
theorem run_execute_eq_some_iff (n : Nat) (hk : k < w.outside.store.machines.size)
    (hnul : Image.crosses source = true) (hne : (source == Capture.source) = false) {mode : Mode}
    {code : Script.Code} (h : Script.Code.ofText mode source = .ok code) (showErrors : Bool)
    (r : Ref) (w' : Session) :
    (c.execute (Script.interface (Recursion.level n).call k) source mode showErrors).run w =
        (.ok (some r), w') ↔
      code.Gives (Recursion.level n).call k c.globals (w.happening (entering c k w source)) (some r)
        w' := by
  rw [run_execute_of_ofText_ok n hk hnul hne h, ← Script.Code.run_eq_ok_iff]
  rcases (code.run (Recursion.level n).call k c.globals).run.run
    (w.happening (entering c k w source)) with ⟨stop | f | _ | r, v⟩
  · exact ⟨nofun, nofun⟩
  · exact ⟨nofun, nofun⟩
  · exact ⟨nofun, nofun⟩
  · exact ⟨fun h => by cases h; rfl, fun h => by cases h; rfl⟩

/-- Source fails just when what was read raises an error, which is reported, or gives no object. -/
theorem run_execute_eq_none_iff (n : Nat) (hk : k < w.outside.store.machines.size)
    (hnul : Image.crosses source = true) (hne : (source == Capture.source) = false) {mode : Mode}
    {code : Script.Code} (h : Script.Code.ofText mode source = .ok code) (showErrors : Bool)
    (w' : Session) :
    (c.execute (Script.interface (Recursion.level n).call k) source mode showErrors).run w =
        (.ok none, w') ↔
      (∃ f v, code.Raises (Recursion.level n).call k c.globals
          (w.happening (entering c k w source)) f v ∧ w' = v.happening (reporting k f showErrors)) ∨
      ∃ v, code.Gives (Recursion.level n).call k c.globals
          (w.happening (entering c k w source)) none v ∧
        (reportError (Script.interface (Recursion.level n).call k) showErrors).run v =
          (.ok (), w') := by
  simp only [run_execute_of_ofText_ok n hk hnul hne h, ← Script.Code.run_eq_ok_iff,
    ← Script.Code.run_eq_error_iff]
  rcases (code.run (Recursion.level n).call k c.globals).run.run
    (w.happening (entering c k w source)) with ⟨stop | f | _ | r, v⟩
  · refine ⟨nofun, ?_⟩
    rintro (⟨f, v', hv', -⟩ | ⟨v', hv', -⟩) <;> cases hv'
  · constructor
    · intro h
      cases h
      exact .inl ⟨f, v, rfl, rfl⟩
    · rintro (⟨f', v', hv', rfl⟩ | ⟨v', hv', -⟩)
      · cases hv'
        rfl
      · cases hv'
  · obtain ⟨u, hu⟩ := exists_run_reportError (Recursion.level n).call k showErrors v
    dsimp only
    rw [hu]
    constructor
    · intro h
      cases h
      exact .inr ⟨v, rfl, hu⟩
    · rintro (⟨f', v', hv', -⟩ | ⟨v', hv', hreported⟩)
      · cases hv'
      · cases hv'
        cases hu.symm.trans hreported
        rfl
  · refine ⟨nofun, ?_⟩
    rintro (⟨f, v', hv', -⟩ | ⟨v', hv', -⟩) <;> cases hv'

/-- The text that an event prints, and the interpreter that prints it. -/
def printed? : Event → Option (Nat × String)
  | .printed m text => some (m, text)
  | _ => none

/-- When text is refused the error is printed, if errors are shown, and nothing else. -/
theorem filterMap_refusing (c : Context) (k : Nat) (w : Session) (source : String) (f : Fault)
    (showErrors : Bool) :
    (refusing c k w source f showErrors).filterMap printed? =
      if showErrors then [(k, f.traceback)] else [] := by
  have hpreparing : (preparing c k w).filterMap printed? = [] := by
    unfold preparing Capture.upkeep
    split
    · split <;> rfl
    · rfl
  rw [refusing, entering, List.filterMap_append, List.filterMap_append, hpreparing]
  cases showErrors <;> rfl

/-- **What does not compile is not run, and what compiles fails only while it runs.** Source without
NUL, other than that which captures output, is compiled by a scripted interpreter and run by a
context over it, at any two moments and in any mode. If it does not compile, running it gives
nothing and does nothing but bind the built-in names where their name is free and note the source:
the state of the library stays as it is, no name is bound besides, and the error that compiling has
raised is reported, which prints its traceback when errors are shown and nothing else. If it
compiles, running it is evaluating what was read, statement after statement. Running gives an object
just when all of it evaluates to one. It gives nothing just when the evaluation of a statement
raises an error, after those before it have been executed, and this error is reported; or when an
expression stands for a missing object, which only a namespace has that was given one. -/
theorem compiles_decides_execute (n : Nat) {c : Context} {k : Nat} (hm : c.machine = .scripted k)
    {source : String} (hnul : Image.crosses source = true) (hsource : source ≠ Capture.source)
    (mode : Mode) (showErrors : Bool) (u : Session) {w : Session}
    (hk : k < w.outside.store.machines.size) :
    ∃ b u', (compiles ((Recursion.level n).machine c.machine) source mode).run u = (.ok b, u') ∧
      (b = false → ∃ f : Fault,
        (((Recursion.level n).machine c.machine).compile source inputName mode).run.run u =
          (.ok none, u.raising k f) ∧
        (c.execute ((Recursion.level n).machine c.machine) source mode showErrors).run w =
          (.ok none, w.happening (refusing c k w source f showErrors)) ∧
        (refusing c k w source f showErrors).filterMap printed? =
          (if showErrors then [(k, f.traceback)] else []) ∧
        ∀ scope x,
          (w.happening (refusing c k w source f showErrors)).outside.store.binding? scope x =
            if Lacks c w scope x then
              some (some ((w.outside.store.machines[k]?).getD default).builtins)
            else w.outside.store.binding? scope x) ∧
      (b = true → ∃ code, Script.Code.ofText mode source = .ok code ∧
        (∀ r w', (c.execute ((Recursion.level n).machine c.machine) source mode showErrors).run w =
            (.ok (some r), w') ↔
          code.Gives (Recursion.level n).call k c.globals (w.happening (entering c k w source))
            (some r) w') ∧
        ∀ w', (c.execute ((Recursion.level n).machine c.machine) source mode showErrors).run w =
            (.ok none, w') ↔
          (∃ f v, code.Raises (Recursion.level n).call k c.globals
              (w.happening (entering c k w source)) f v ∧
            w' = v.happening (reporting k f showErrors)) ∨
          ∃ v, code.Gives (Recursion.level n).call k c.globals
              (w.happening (entering c k w source)) none v ∧
            (reportError ((Recursion.level n).machine c.machine) showErrors).run v =
              (.ok (), w')) := by
  have hne : (source == Capture.source) = false := beq_eq_false_iff_ne.mpr hsource
  rw [hm]
  cases hread : Script.Code.ofText mode source with
  | error e =>
    obtain ⟨hcompile, hcompiles⟩ := @run_compiles_of_error (Recursion.level n).call k source hnul
      mode e hread u
    refine ⟨false, _, hcompiles, fun _ => ⟨e.fault, hcompile, ?_, filterMap_refusing .., ?_⟩, nofun⟩
    · exact run_execute_of_ofText_error hk hnul hne hread showErrors
    · intro scope x
      rw [refusing, entering, Session.happening_append, binding?_reporting,
        Session.happening_append]
      exact binding?_preparing c k w scope x
  | ok code =>
    have hcompiles := @run_compiles_of_ok (Recursion.level n).call k source hnul mode code hread u
    exact ⟨true, _, hcompiles, nofun, fun _ => ⟨code, rfl,
      run_execute_eq_some_iff n hk hnul hne hread showErrors,
      run_execute_eq_none_iff n hk hnul hne hread showErrors⟩⟩

/-- A context over the main namespace of an interpreter that has run nothing. -/
def first : Context := { number := 0, machine := .scripted 0, globals := 0 }

/-- That interpreter. -/
def unused : Session :=
  Session.taking 0 [.runtime (.make "main" true)] Trial.fresh

/-- What the context makes of source, with calls that nest too deep. -/
def executed (source : String) : Except Stop (Option Ref) × Session :=
  (first.execute ((Recursion.level 0).machine first.machine) source .file true).run unused

/-- An error on the last line keeps the first from binding its name; without it both are
evaluated. -/
theorem compiles_decides_execute_lines :
    ((executed "x = 1\nx +").1 = .ok none ∧
      (executed "x = 1\nx +").2.outside.store.binding? 0 "x" = none) ∧
    ∃ code r w', Script.Code.ofText .file "x = 1\nx" = .ok code ∧
      executed "x = 1\nx" = (.ok (some r), w') ∧
      code.Gives (Recursion.level 0).call 0 (some 0)
        (unused.happening (entering first 0 unused "x = 1\nx")) (some r) w' := by
  have hk : 0 < unused.outside.store.machines.size := Nat.zero_lt_one
  constructor
  · obtain ⟨b, u', hcompiles, hrefused, -⟩ := @compiles_decides_execute 0 first 0 rfl
      "x = 1\nx +" (by decide +kernel) (by decide +kernel) .file true unused unused hk
    have hfalse : ((compiles ((Recursion.level 0).machine first.machine) "x = 1\nx +" .file).run
        unused).1.toOption = some false := by decide +kernel
    rw [hcompiles] at hfalse
    obtain ⟨f, -, hexecute, -, hbound⟩ := hrefused (Option.some.inj hfalse)
    have hrun : executed "x = 1\nx +" = _ := hexecute
    rw [hrun]
    refine ⟨rfl, (hbound 0 "x").trans ?_⟩
    rw [if_neg (by decide +kernel)]
    decide +kernel
  · obtain ⟨b, u', hcompiles, -, haccepted⟩ := @compiles_decides_execute 0 first 0 rfl
      "x = 1\nx" (by decide +kernel) (by decide +kernel) .file true unused unused hk
    have htrue : ((compiles ((Recursion.level 0).machine first.machine) "x = 1\nx" .file).run
        unused).1.toOption = some true := by decide +kernel
    rw [hcompiles] at htrue
    obtain ⟨code, hcode, hsome, -⟩ := haccepted (Option.some.inj htrue)
    have hgiven : ((executed "x = 1\nx").1.toOption.join).isSome = true := by decide +kernel
    rcases hrun : executed "x = 1\nx" with ⟨_ | _ | r, w'⟩
    · rw [hrun] at hgiven
      cases hgiven
    · rw [hrun] at hgiven
      cases hgiven
    · exact ⟨code, r, w', hcode, rfl, (hsome r w').mp hrun⟩

end Context

end ClosureBridge
