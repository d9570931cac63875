import ClosureBridge.Proofs.Capture.Start
import ClosureBridge.Proofs.Interpreter.Definition
import ClosureBridge.Proofs.Lambda.Mapping

/-!
# Resolving a lambda written as source text

The first time a lambda written as source text is resolved, its text is pasted into a statement and
run in the namespace of the context. When the text is on one line, that statement is the only one:
it defines the function that the keyword and the text are read as, or nothing is run. Where the
text goes on over more lines, the lines after the first are statements of their own.

## Main definitions

* `SourceLambda.Tended`: a name of a namespace is bound as before, but for the built-in names.
* `SourceLambda.defining`: what happens when a definition is run.

## Main statements

* `SourceLambda.run_define_of_ok`, `SourceLambda.run_define_of_error`: a definition, run.
* `SourceLambda.resolve_defines`: what the first resolution of a text on one line does.
-/

namespace ClosureBridge

open Script (Eval Event Expr Statement Store)

namespace Script

variable {call : Caller Bench} {k : Nat} {w : Session} {scope : Ref}

/-- A lambda that is assigned is made and bound. -/
theorem run_executeOne_lambda {names : Bindings (Option Ref)}
    (h : w.outside.store.heap.get (some scope) = .dict names) (x : String) (ps : List String)
    (body : Expr) :
    (executeOne call k (some scope) (.assign x (.lambda ps body))).run.run w =
      (.ok (.ok ()), w.happening [.made (.function ps body) rfl,
        .bound scope x (some w.outside.store.heap.objects.size)]) := by
  have hmake : (eval call k ⟨some scope, ∅⟩ (.lambda ps body)).run.run w =
      (.ok (.ok (some w.outside.store.heap.objects.size)),
        w.happening [.made (.function ps body) rfl]) := by
    unfold eval
    rfl
  obtain ⟨names', hnames'⟩ := Capture.exists_names_after h [.made (.function ps body) rfl]
  have hbind := Capture.bind_eq (w := w.happening [.made (.function ps body) rfl]) hnames' x
    (some w.outside.store.heap.objects.size)
  unfold executeOne
  rw [Eval.run_bind_of_ok hmake, Eval.run_quiet_bind, hbind]
  rfl

/-- A definition that is read is run. -/
theorem run_runText_lambda {names : Bindings (Option Ref)}
    (h : w.outside.store.heap.get (some scope) = .dict names) {text x : String}
    {ps : List String} {body : Expr}
    (hblock : Statement.block text.toList = .ok [.assign x (.lambda ps body)]) :
    ∃ r : Ref, (runText call k (some scope) .file text).run.run w =
      (.ok (.ok (some r)), w.happening [.made (.function ps body) rfl,
        .bound scope x (some w.outside.store.heap.objects.size), .made .none rfl]) := by
  have hone := @run_executeOne_lambda call k w scope names h x ps body
  refine ⟨(w.happening [.made (.function ps body) rfl, .bound scope x
    (some w.outside.store.heap.objects.size)]).outside.store.heap.objects.size, ?_⟩
  have htext : (runText call k (some scope) .file text).run.run w =
      (execute call k (some scope) [.assign x (.lambda ps body)]).run.run w := by
    unfold runText
    rw [hblock]
    rfl
  rw [htext, execute, Eval.run_bind_of_ok hone]
  rfl

/-- Source that cannot be read does nothing. -/
theorem run_runText_of_block_error {globals : Option Ref} {text : String} {f : SyntaxFault}
    (hblock : Statement.block text.toList = .error f) :
    (runText call k globals .file text).run.run w = (.ok (.error f.fault), w) := by
  unfold runText
  rw [hblock]
  rfl

end Script

namespace Session

/-- An error that is pending is dropped. -/
theorem run_reportError_raising {call : Script.Caller Bench} {k : Nat} {w : Session}
    (hk : k < w.outside.store.machines.size) (e : Script.Fault) :
    (Context.reportError (Script.interface call k) false).run (w.raising k e) =
      (.ok (), w.happening [.pended k (some e), .pended k none]) := by
  have hpending := pending_raising hk e
  have hoccurred : (Script.interface call k).errorOccurred.run.run (w.raising k e) =
      (.ok true, w.raising k e) := by
    obtain ⟨x, hx, hxe⟩ := Option.bind_eq_some_iff.mp hpending
    have hrun : (Script.interface call k).errorOccurred.run.run (w.raising k e) =
        (.ok ((((w.raising k e).outside.store.machines[k]?).getD default).pending.isSome),
          w.raising k e) := rfl
    rw [hrun, hx, Option.getD_some, hxe]
    rfl
  unfold Context.reportError
  rw [Exec.run_bind_of_ok hoccurred]
  rfl

end Session

namespace Script.Store

variable {s : Store} {scope : Ref} {names : Bindings (Option Ref)}

/-- An object that is made binds nothing. -/
theorem binding?_made (h : s.heap.get (some scope) = .dict names) (o : Object)
    (ho : o.isBuffer = false) (x : String) :
    ((Event.made o ho).apply s).binding? scope x = s.binding? scope x := by
  rw [binding?, Event.apply, get_alloc, if_neg, binding?]
  rintro rfl
  rw [Heap.get, Array.getElem?_eq_none (Nat.le_refl _)] at h
  cases h

/-- A function that is made and bound, with what comes after it, binds one name. -/
theorem binding?_assigned (h : s.heap.get (some scope) = .dict names) (x : String)
    (ps : List String) (body : Expr) {s' : Store}
    (hs' : s' = s.after [.made (.function ps body) rfl,
      .bound scope x (some s.heap.objects.size), .made .none rfl]) :
    s'.binding? scope x = some (some s.heap.objects.size) ∧
      s'.heap.get (some s.heap.objects.size) = .function ps body ∧
      ∀ y, y ≠ x → s'.binding? scope y = s.binding? scope y := by
  subst hs'
  obtain ⟨names₁, hnames₁⟩ := Capture.exists_names_after h [.made (.function ps body) rfl]
  obtain ⟨names₂, hnames₂⟩ := Capture.exists_names_after h
    [.made (.function ps body) rfl, .bound scope x (some s.heap.objects.size)]
  refine ⟨?_, ?_, fun y hy => ?_⟩
  · exact binding?_after (binding?_bound hnames₁ x _) (by simp [Event.binds])
  · have hmade : (s.after [.made (.function ps body) rfl]).heap.objects[s.heap.objects.size]? =
        some (.function ps body) := Array.getElem?_push_size
    have hgrows := grows_after (s.after [.made (.function ps body) rfl])
      [.bound scope x (some s.heap.objects.size), .made .none rfl]
    exact Heap.get_of_getElem? (hgrows.fixed hmade rfl)
  · have hlast := binding?_made hnames₂ .none rfl y
    have hfirst := binding?_made h (.function ps body) rfl y
    have hbound := @binding?_bound_of_ne ((Event.made (.function ps body) rfl).apply s) scope scope
      y x (some s.heap.objects.size) (Ne.symm hy)
    exact hlast.trans (hbound.trans hfirst)

end Script.Store

namespace SourceLambda

variable {call : Script.Caller Bench} {c : Context} {k : Nat} {w v : Session} {name : Ident}
  {source : String}

/-- A name is bound in the namespace of a context as it was, or it is the name of the built-in
names, which were missing and have been bound. -/
def Tended (c : Context) (k : Nat) (w v : Session) (x : String) : Prop :=
  v.outside.store.binding? c.globals x =
    if x = Context.builtinsName ∧ (w.outside.store.binding? c.globals x).join = none then
      some (some ((w.outside.store.machines[k]?).getD default).builtins)
    else w.outside.store.binding? c.globals x

/-- What leaves the objects alone binds nothing. -/
theorem Tended.of_heap {u : Session} {x : String} (h : Tended c k w u x)
    (hv : v.outside.store.heap = u.outside.store.heap) : Tended c k w v x := by
  rw [Tended, Store.binding?, hv]
  exact h

/-- Upkeep binds the built-in names, if anything. -/
theorem tended_upkeep {names : Bindings (Option Ref)}
    (h : w.outside.store.heap.get (some c.globals) = .dict names) (x : String) :
    Tended c k w (w.happening (Capture.upkeep c k w)) x := by
  rw [Tended, Capture.upkeep, Session.happening]
  by_cases hfree : (w.outside.store.binding? c.globals Context.builtinsName).join = none
  · rw [if_pos (Option.isNone_iff_eq_none.mpr hfree), Store.after_cons, Store.after_nil]
    by_cases hx : x = Context.builtinsName
    · rw [if_pos ⟨hx, hx ▸ hfree⟩, hx]
      exact Store.binding?_bound h _ _
    · rw [if_neg fun hc => hx hc.1]
      exact Store.binding?_bound_of_ne (Ne.symm hx)
  · rw [if_neg fun hc => hfree (Option.isNone_iff_eq_none.mp hc), Store.after_nil, if_neg]
    rintro ⟨rfl, hc⟩
    exact hfree hc

/-- What happens in the namespace of a context when a definition is run, up to its reading. -/
def running (c : Context) (k : Nat) (w : Session) (text : String) : List Event :=
  Capture.upkeep c k w ++ [.ran k text]

/-- What happens when a lambda is defined in the namespace of a context. -/
def defining (c : Context) (k : Nat) (w : Session) (name : Ident) (source : String)
    (ps : List String) (body : Expr) : List Event :=
  running c k w (definition name source) ++
    [.made (.function ps body) (Script.Object.isBuffer_function ps body),
      .bound c.globals name.text (some (w.happening
        (running c k w (definition name source))).outside.store.heap.objects.size),
      .made .none Script.Object.isBuffer_none]

/-- What happens when a definition cannot be read. -/
def refusing (c : Context) (k : Nat) (w : Session) (text : String) (f : Script.SyntaxFault) :
    List Event :=
  running c k w text ++ [.pended k (some f.fault), .pended k none]

theorem run_execute_of_ok {names : Bindings (Option Ref)}
    (hnames : w.outside.store.heap.get (some c.globals) = .dict names)
    (hname : Script.isName name.text = true) (hnul : Image.crosses source = true)
    (hline : '\n' ∉ Margin.trim source.toList) {ps : List String} {body : Expr}
    (hblock : Statement.block (definition name source).toList =
      .ok [.assign name.text (.lambda ps body)]) :
    ∃ r : Ref, (c.execute (Script.interface call k) (definition name source) .file false).run w =
      (.ok (some r), w.happening (defining c k w name source ps body)) := by
  obtain ⟨names', hnames'⟩ := Capture.exists_names_after hnames
    (running c k w (definition name source))
  obtain ⟨r, htext⟩ := @Script.run_runText_lambda call k
    (w.happening (running c k w (definition name source))) c.globals names' hnames' _ _ ps body
    hblock
  rw [← Session.happening_append] at htext
  refine ⟨r, Capture.run_execute hnames (crosses_definition hname hnul) .file false
    (Capture.run_runString (definition_ne_source hname hline) ?_)⟩
  rw [← Session.happening_append]
  exact htext

theorem run_execute_of_error (hk : k < w.outside.store.machines.size)
    {names : Bindings (Option Ref)}
    (hnames : w.outside.store.heap.get (some c.globals) = .dict names)
    (hname : Script.isName name.text = true) (hnul : Image.crosses source = true)
    (hline : '\n' ∉ Margin.trim source.toList) {f : Script.SyntaxFault}
    (hblock : Statement.block (definition name source).toList = .error f) :
    (c.execute (Script.interface call k) (definition name source) .file false).run w =
      (.ok none, w.happening (refusing c k w (definition name source) f)) := by
  have htext := @Script.run_runText_of_block_error call k
    (w.happening (running c k w (definition name source))) (some c.globals) _ f hblock
  rw [running, Session.happening_append] at htext
  have hstring := Session.run_runString_of_error (definition_ne_source hname hline) htext
  have hlt := (w.outside.store.grows_after
    (running c k w (definition name source))).lt_machines hk
  have hreport := @Session.run_reportError_raising call k
    (w.happening (running c k w (definition name source))) hlt f.fault
  rw [running, Session.happening_append] at hreport
  rw [Session.run_execute_of_none (crosses_definition hname hnul) false
    (Capture.run_ensureBuiltins hnames) hstring, Exec.run_bind_of_ok hreport, refusing,
    Session.happening_append, running, Session.happening_append]
  rfl

/-! ### The namespace afterwards -/

/-- What is run and read binds no name but those that upkeep binds. -/
theorem tended_running {names : Bindings (Option Ref)}
    (hnames : w.outside.store.heap.get (some c.globals) = .dict names) (text x : String) :
    Tended c k w (w.happening (running c k w text)) x := by
  rw [running, Session.happening_append]
  exact (tended_upkeep hnames x).of_heap rfl

/-- After a definition the name is bound to the function, and every other name as before. -/
theorem bound_defining {names : Bindings (Option Ref)}
    (hnames : w.outside.store.heap.get (some c.globals) = .dict names) (name : Ident)
    (source : String) (ps : List String) (body : Expr) :
    (∃ r, (w.happening (defining c k w name source ps body)).outside.store.binding? c.globals
        name.text = some (some r) ∧
      (w.happening (defining c k w name source ps body)).outside.store.heap.get (some r) =
        .function ps body) ∧
    ∀ x, x ≠ name.text → Tended c k w (w.happening (defining c k w name source ps body)) x := by
  obtain ⟨names', hnames'⟩ := Capture.exists_names_after hnames
    (running c k w (definition name source))
  have hstore : (w.happening (defining c k w name source ps body)).outside.store = _ :=
    w.outside.store.after_append _ _
  obtain ⟨hbound, hget, hother⟩ := Store.binding?_assigned hnames' name.text ps body hstore
  refine ⟨⟨_, hbound, hget⟩, fun x hx => ?_⟩
  exact (hother x hx).trans (tended_running hnames (definition name source) x)

/-- A text that cannot be read binds nothing. -/
theorem tended_refusing {names : Bindings (Option Ref)}
    (hnames : w.outside.store.heap.get (some c.globals) = .dict names) (text : String)
    (f : Script.SyntaxFault) (x : String) :
    Tended c k w (w.happening (refusing c k w text f)) x := by
  rw [refusing, Session.happening_append]
  exact (tended_running hnames text x).of_heap rfl

/-! ### The first resolution -/

/-- The state after a name has been drawn for a global. -/
def drawn (w : Session) : Session :=
  { w with sourceIds := w.sourceIds.next.2 }

/-- The state in which a lambda remembers its global. -/
def remembering (w : Session) (n : Nat) (name : Ident) : Session :=
  { w with sources := w.sources.modify n fun l => { l with global := l.global.or (some name) } }

/-- What a name is bound to is fetched. -/
theorem run_fetch (hname : Script.isName name.text = true) {r : Ref}
    (h : w.outside.store.binding? c.globals name.text = some (some r)) :
    (fetch (Script.interface call k) c name).run w = (.ok (.ok r), w) := by
  have hcrosses : Image.crosses name.text = true := by
    simpa [Image.crosses] using Script.nul_not_mem_of_isName hname
  have hget : (c.getGlobal (Script.interface call k) name.text).run w = (.ok (some r), w) := by
    unfold Context.getGlobal
    rw [if_pos hcrosses, Capture.run_dictGet, h]
    rfl
  unfold fetch
  rw [Exec.run_bind_of_ok hget]
  rfl

theorem check_eq_ok (hkeyword : startsWithKeyword (Margin.trimStart source.toList) = false)
    (hcolon : (Margin.trimStart source.toList).contains ':' = true) :
    check source = .ok { source } := by
  have hmem : ':' ∈ Margin.trimStart source.toList := by simpa using hcolon
  simp [check, hkeyword, hmem]

/-- A lambda whose definition has ended remembers its global, or is as it was. -/
theorem modify_ended_begun {sources : Array SourceLambda} {n : Nat} {l : SourceLambda}
    (hl : sources[n]? = some l) (hidle : l.IsIdle) (name : Ident) (ok : Bool) :
    (sources.modify n (begun name)).modify n (ended ok) =
      if ok then sources.modify n fun l => { l with global := l.global.or (some name) }
      else sources := by
  refine Array.ext_getElem? fun i => ?_
  rw [Array.getElem?_modify, Array.getElem?_modify]
  split
  · next h =>
    subst h
    rw [hl, Option.map_some, Option.map_some, ended_begun hidle]
    cases ok with
    | false => exact hl.symm
    | true => simp [Array.getElem?_modify, hl, hidle.1]
  · next h => cases ok <;> simp [Array.getElem?_modify, h]

/-- The first resolution defines a global and fetches it. -/
theorem run_resolve_of_ok {I : Interpreter Bench.Outside} {n : Nat} {l : SourceLambda}
    (hl : w.sources[n]? = some l) (hidle : l.IsIdle) {es : List Event}
    (hv : (define I c w.sourceIds.next.1 l.source).run (w.attempting n) =
      (.ok (.ok ()), (w.attempting n).happening es)) :
    (resolve I c n).run w = (fetch I c w.sourceIds.next.1).run
      (remembering (drawn (w.happening es)) n w.sourceIds.next.1) := by
  have hstate : Session.settled ((w.attempting n).happening es) n true =
      remembering (drawn (w.happening es)) n w.sourceIds.next.1 :=
    congrArg (fun sources => { drawn (w.happening es) with sources })
      (modify_ended_begun hl hidle w.sourceIds.next.1 true)
  rw [run_resolve_of_idle I c hl hidle, Exec.run_catchPanic, hv, ← hstate]
  rfl

/-- A first resolution that fails leaves the lambda as it was. -/
theorem run_resolve_of_error {I : Interpreter Bench.Outside} {n : Nat} {l : SourceLambda}
    {e : LambdaError} (hl : w.sources[n]? = some l) (hidle : l.IsIdle) {es : List Event}
    (hv : (define I c w.sourceIds.next.1 l.source).run (w.attempting n) =
      (.ok (.error e), (w.attempting n).happening es)) :
    (resolve I c n).run w = (.ok (.error e), drawn (w.happening es)) := by
  have hstate : Session.settled ((w.attempting n).happening es) n false = drawn (w.happening es) :=
    congrArg (fun sources => { drawn (w.happening es) with sources })
      (modify_ended_begun hl hidle w.sourceIds.next.1 false)
  rw [run_resolve_of_idle I c hl hidle, Exec.run_catchPanic, hv, ← hstate]
  rfl

/-- **A text on one line is resolved to the function that it stands for, or not at all.** An
accepted text without NUL and without line feeds between its margins is resolved for the first time,
in the namespace of a context over a scripted interpreter. If the keyword and the text are read as
an expression, this is a lambda, and the resolution gives an object that is a function with its
parameters and its body; that object is what the name that was drawn is bound to, and every other
name is bound as before, but for the built-in names. If they are not, the resolution fails, and all
names are bound as before, but for the built-in names. Nothing but the definition is run. -/
theorem resolve_defines (hm : c.machine = .scripted k) (hk : k < w.outside.store.machines.size)
    {names : Bindings (Option Ref)}
    (hnames : w.outside.store.heap.get (some c.globals) = .dict names)
    (hstem : w.sourceIds.stem = Ident.sourceStem) {n : Nat} {l : SourceLambda}
    (hl : w.sources[n]? = some l) (haccepted : check l.source = .ok l)
    (hnul : Image.crosses l.source = true) (hline : '\n' ∉ Margin.trim l.source.toList) :
    (∀ e, Expr.ofText (expression l.source) = .ok e → ∃ ps body r v, e = .lambda ps body ∧
      (resolve (Bench.machine call c.machine) c n).run w = (.ok (.ok r), v) ∧
      v = remembering (drawn (w.happening
        (defining c k w w.sourceIds.next.1 l.source ps body))) n w.sourceIds.next.1 ∧
      v.outside.store.heap.get (some r) = .function ps body ∧
      v.outside.store.binding? c.globals w.sourceIds.next.1.text = some (some r) ∧
      ∀ x, x ≠ w.sourceIds.next.1.text → Tended c k w v x) ∧
    ∀ f, Expr.ofText (expression l.source) = .error f → ∃ f' v,
      (resolve (Bench.machine call c.machine) c n).run w =
        (.ok (.error (.evaluation ("could not evaluate lambda " ++ l.source))), v) ∧
      v = drawn (w.happening
        (refusing c k w (definition w.sourceIds.next.1 l.source) f')) ∧
      ∀ x, Tended c k w v x := by
  have hname := Ident.isName_next hstem
  have hidle := isIdle_of_check haccepted
  obtain ⟨hok, herror⟩ := block_definition hname hline (trim_ne_nil haccepted)
  rw [hm]
  constructor
  · intro e he
    obtain ⟨⟨ps, body, rfl⟩, hblock⟩ := hok e he
    obtain ⟨r', hexecute⟩ := @run_execute_of_ok call c k (w.attempting n) _ _ names hnames hname
      hnul hline ps body hblock
    have hdefine : (define (Script.interface call k) c w.sourceIds.next.1 l.source).run
        (w.attempting n) = (.ok (.ok ()), (w.attempting n).happening
          (defining c k w w.sourceIds.next.1 l.source ps body)) := by
      unfold define
      rw [Exec.run_bind_of_ok hexecute]
      rfl
    obtain ⟨⟨r, hbound, hget⟩, hother⟩ :=
      @bound_defining c k w names hnames w.sourceIds.next.1 l.source ps body
    refine ⟨ps, body, r, _, rfl, ?_, rfl, hget, hbound, fun x hx => (hother x hx).of_heap rfl⟩
    exact (run_resolve_of_ok hl hidle hdefine).trans (run_fetch hname hbound)
  · intro f hf
    obtain ⟨f', hblock⟩ := herror f hf
    have hexecute := @run_execute_of_error call c k (w.attempting n) _ _ hk names hnames hname hnul
      hline f' hblock
    have hdefine : (define (Script.interface call k) c w.sourceIds.next.1 l.source).run
        (w.attempting n) = (.ok (.error (.evaluation ("could not evaluate lambda " ++ l.source))),
          (w.attempting n).happening
            (refusing c k w (definition w.sourceIds.next.1 l.source) f')) := by
      unfold define
      rw [Exec.run_bind_of_ok hexecute]
      rfl
    exact ⟨f', _, run_resolve_of_error hl hidle hdefine, rfl,
      fun x => (tended_refusing hnames _ f' x).of_heap rfl⟩

/-- A text is kept beside a context over a new namespace. -/
def kept (text : String) : Session :=
  let w := Session.taking 0 [.runtime (.make "main" true), .runtime (.install "main"),
    .context "main" (.open .isolated "main" none none)] Trial.fresh
  ((keep { source := text }).run w).2

/-- The context over the new namespace. -/
def isolated : Context := { number := 0, machine := .scripted 0, globals := 2 }

/-- The first resolution in that context, with calls that nest too deep. -/
def resolved (text : String) : Except Stop (Except LambdaError Ref) × Session :=
  (resolve (Bench.machine (Recursion.level 0).call isolated.machine) isolated 0).run (kept text)

/-- A text that is an expression is resolved, and one with a word too many is not. -/
theorem resolve_defines_kept :
    (∃ (ps : List String) (body : Expr) (r : Ref), (resolved " x: x*2").1 = .ok (.ok r) ∧
      (resolved " x: x*2").2.outside.store.heap.get (some r) = .function ps body ∧
      (resolved " x: x*2").2.outside.store.binding? 2 "lmbstr0" = some (some r)) ∧
    (resolved "x: x y").1 =
      .ok (.error (.evaluation "could not evaluate lambda x: x y")) := by
  have hnames (text : String) : (kept text).outside.store.heap.get (some isolated.globals) =
      .dict ∅ := rfl
  have hkept (text : String) : (kept text).sources[0]? = some { source := text } := rfl
  have hlt (text : String) : 0 < (kept text).outside.store.machines.size := Nat.zero_lt_one
  have hdouble : check " x: x*2" = .ok { source := " x: x*2" } :=
    check_eq_ok (by decide +kernel) (by decide +kernel)
  have hwords : check "x: x y" = .ok { source := "x: x y" } :=
    check_eq_ok (by decide +kernel) (by decide +kernel)
  constructor
  · have hread : (Expr.ofText (expression " x: x*2")).isOk = true := by decide +kernel
    cases he : Expr.ofText (expression " x: x*2") with
    | error f =>
      rw [he] at hread
      cases hread
    | ok e =>
      obtain ⟨ps, body, r, v, -, hrun, -, hget, hbound, -⟩ := (@resolve_defines
        (Recursion.level 0).call isolated 0 _ rfl (hlt _) ∅ (hnames _) rfl 0 _ (hkept _) hdouble
        (by decide +kernel) (by decide +kernel)).1 e he
      rw [resolved, hrun]
      exact ⟨ps, body, r, rfl, hget, hbound⟩
  · have hread : (Expr.ofText (expression "x: x y")).isOk = false := by decide +kernel
    cases hf : Expr.ofText (expression "x: x y") with
    | ok e =>
      rw [hf] at hread
      cases hread
    | error f =>
      obtain ⟨f', v, hrun, -⟩ := (@resolve_defines
        (Recursion.level 0).call isolated 0 _ rfl (hlt _) ∅ (hnames _) rfl 0 _ (hkept _) hwords
        (by decide +kernel) (by decide +kernel)).2 f hf
      rw [resolved, hrun]
      rfl

/-- A text that goes on over a second line is resolved although it stands for no expression, and the
second line is run as a statement of its own. -/
theorem not_resolved_iff_expression :
    ¬∀ source l, check source = .ok l → Image.crosses source = true →
      ((∃ r, (resolved source).1 = .ok (.ok r)) ↔ ∃ e, Expr.ofText (expression source) = .ok e) ∧
      ((resolved source).2.outside.store.binding? 2 "y").isSome = false := by
  intro h
  have haccepted : check "x: x\ny = 1" = .ok { source := "x: x\ny = 1" } :=
    check_eq_ok (by decide +kernel) (by decide +kernel)
  obtain ⟨hiff, -⟩ := h _ _ haccepted (by decide +kernel)
  have hread : (Expr.ofText (expression "x: x\ny = 1")).isOk = false := by decide +kernel
  have hrun : ((resolved "x: x\ny = 1").1.toOption.bind Except.toOption).isSome = true := by
    decide +kernel
  cases hr : (resolved "x: x\ny = 1").1 with
  | error stop =>
    rw [hr] at hrun
    cases hrun
  | ok r =>
    cases r with
    | error e =>
      rw [hr] at hrun
      cases hrun
    | ok r =>
      obtain ⟨e, he⟩ := hiff.mp ⟨r, hr⟩
      rw [he] at hread
      cases hread

end SourceLambda

end ClosureBridge
