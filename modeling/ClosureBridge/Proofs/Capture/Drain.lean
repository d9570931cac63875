import ClosureBridge.Proofs.Capture.Buffer
import ClosureBridge.Proofs.Session.Operations
import ClosureBridge.Proofs.Session.Scripts

/-!
# Reading captured output

A context that captures output reads the buffer of its namespace by running source that calls the
methods of the buffer. Apart from the mark, which a drain moves to the end, reading changes nothing
that captured output depends on.

## Main definitions

* `Session.happening`: the state after events in the store.
* `Script.Event.isUpkeep`: an event that captured output does not depend on.
* `Capture.Holds`: the namespace of a context holds a buffer.
* `Capture.Listening`: a context captures output, and some of it is unread.

## Main statements

* `Capture.run_drain`: a drain gives what is unread in the buffer and moves its mark.
* `Capture.Listening.exists_run_drain`: it leaves what is unread in other buffers.
-/

namespace ClosureBridge

open Script (Event Eval Expr Object OutputBuffer Statement Store)

/-! ### Events -/

namespace Session

/-- The state after events in the store. -/
def happening (w : Session) (es : List Event) : Session :=
  { w with outside := { w.outside with store := w.outside.store.after es } }

theorem happening_append (w : Session) (es fs : List Event) :
    w.happening (es ++ fs) = (w.happening es).happening fs := by
  rw [happening, Store.after_append]
  rfl

end Session

/-- An event that captured output does not depend on. -/
def Script.Event.isUpkeep : Event → Bool
  | made _ _ => true
  | ran _ _ => true
  | bound _ name _ => name == Context.builtinsName
  | _ => false

/-! ### The source that is run -/

namespace Capture

/-- Whether an expression calls a method of the buffer. -/
def isMethodCall (method : String) : Expr → Bool
  | .method (.name x) m [] => x == name && m == method
  | _ => false

theorem eq_of_isMethodCall {method : String} {e : Expr} (h : isMethodCall method e = true) :
    e = .method (.name name) method [] := by
  unfold isMethodCall at h
  split at h
  · rw [Bool.and_eq_true, beq_iff_eq, beq_iff_eq] at h
    rw [h.1, h.2]
  · cases h

theorem ofText_of_isMethodCall {method : String}
    (h : (match Expr.ofText (methodCall method).toList with
      | .ok e => isMethodCall method e
      | .error _ => false) = true) :
    Expr.ofText (methodCall method).toList = .ok (.method (.name name) method []) := by
  split at h
  · next e he => rw [he, eq_of_isMethodCall h]
  · cases h

/-- The source that reads what is unread. -/
theorem ofText_recent :
    Expr.ofText (methodCall "recent").toList = .ok (.method (.name name) "recent" []) :=
  ofText_of_isMethodCall (by decide +kernel)

/-- The source that reads all that was written. -/
theorem ofText_value :
    Expr.ofText (methodCall "value").toList = .ok (.method (.name name) "value" []) :=
  ofText_of_isMethodCall (by decide +kernel)

theorem block_of_isMethodCall {method : String}
    (h : (match Statement.block (methodCall method).toList with
      | .ok [.evaluate e] => isMethodCall method e
      | _ => false) = true) :
    Statement.block (methodCall method).toList =
      .ok [.evaluate (.method (.name name) method [])] := by
  split at h
  · next e he => rw [he, eq_of_isMethodCall h]
  · cases h

/-- The source that moves the mark. -/
theorem block_mark :
    Statement.block (methodCall "mark").toList =
      .ok [.evaluate (.method (.name name) "mark" [])] :=
  block_of_isMethodCall (by decide +kernel)

end Capture

theorem Image.crosses_append (s t : String) :
    Image.crosses (s ++ t) = (Image.crosses s && Image.crosses t) := by
  simp [Image.crosses, String.toList_append]

theorem Image.crosses_intercalate {sep : String} (hsep : Image.crosses sep = true) :
    ∀ {texts : List String}, (∀ text ∈ texts, Image.crosses text = true) →
      Image.crosses (String.intercalate sep texts) = true
  | [], _ => rfl
  | [text], h => by
    rw [String.intercalate_singleton]
    exact h text List.mem_cons_self
  | text :: next :: rest, h => by
    rw [String.intercalate_cons_of_ne_nil (List.cons_ne_nil next rest), crosses_append,
      crosses_append, h text List.mem_cons_self, hsep,
      crosses_intercalate hsep fun t ht => h t (.tail text ht)]
    rfl

namespace Capture

theorem crosses_name : Image.crosses name = true := by simp [Image.crosses, name]

theorem crosses_source : Image.crosses source = true := by
  refine Image.crosses_intercalate (by simp [Image.crosses]) ?_
  simp [Image.crosses]

/-- The source that calls a method crosses the boundary if the name of the method does. -/
theorem crosses_methodCall (method : String) :
    Image.crosses (methodCall method) = Image.crosses method := by
  have hdot : Image.crosses "." = true := by simp [Image.crosses]
  have hparens : Image.crosses "()" = true := by simp [Image.crosses]
  rw [methodCall, Image.crosses_append, Image.crosses_append, Image.crosses_append, crosses_name,
    hdot, hparens, Bool.true_and, Bool.true_and, Bool.and_true]

theorem methodCall_ne_source (method : String) : (methodCall method == source) = false := by
  refine beq_eq_false_iff_ne.mpr fun heq => ?_
  obtain ⟨rest, hsource⟩ : ∃ rest, source = "import sys as _pylambda_sys" ++ "\n" ++ rest :=
    ⟨_, String.intercalate_cons_of_ne_nil (List.cons_ne_nil _ _)⟩
  -- One starts with an underscore, the other with an `i`.
  have hhead := congrArg (fun text => text.toList.head?) (heq.trans hsource)
  simp [methodCall, name] at hhead

/-! ### Scripts that call a method of the buffer -/

section

variable {call : Script.Caller Bench} {k : Nat} {w : Session} {scope r : Ref}

theorem find_eq (scope : Ref) (x : String) (w : Session) :
    (ReaderT.run (Store.find (some scope) x) w.descriptors w.outside) =
      (w.outside.store.binding? scope x, w.outside) := by
  have hobject : ReaderT.run (Store.object (some scope)) w.descriptors w.outside =
      (w.outside.store.heap.get (some scope), w.outside) := rfl
  rw [Store.find, ReaderT.run_bind, Store.binding?]
  change ((ReaderT.run (Store.object (some scope)) w.descriptors).bind _) w.outside = _
  rw [StateT.bind, hobject]
  cases w.outside.store.heap.get (some scope) <;> rfl

theorem run_lookup {x : String} {v : Option Ref}
    (h : w.outside.store.binding? scope x = some v) :
    (Script.lookup ⟨some scope, ∅⟩ x : Eval Bench _).run.run w = (.ok (.ok (some v)), w) := by
  change (Eval.quiet (Store.find (some scope) x) >>= _ : Eval Bench _).run.run w = _
  rw [Eval.run_quiet_bind, find_eq, h]
  rfl

/-- A method of what a name is bound to is called. -/
theorem run_eval_method {x method : String} {v : Option Ref}
    (h : w.outside.store.binding? scope x = some v) :
    (Script.eval call k ⟨some scope, ∅⟩ (.method (.name x) method [])).run.run w =
      (Script.callMethod v method []).run.run w := by
  have hname : (Script.eval call k ⟨some scope, ∅⟩ (.name x)).run.run w = (.ok (.ok v), w) := by
    unfold Script.eval
    exact Exec.run_bind_of_ok (run_lookup h)
  unfold Script.eval
  rw [show Script.evalAll call k ⟨some scope, ∅⟩ [] = pure [] from rfl]
  exact Exec.run_bind_of_ok hname

theorem get_of_output? {s : Store} {b : OutputBuffer} (h : s.output? r = some b) :
    s.heap.get (some r) = .output b := by
  rw [Store.output?] at h
  cases ho : s.heap.get (some r) with
  | output b' =>
    rw [ho] at h
    cases h
    rfl
  | _ =>
    rw [ho] at h
    cases h

theorem run_callMethod_recent {b : OutputBuffer} {text : String}
    (hb : w.outside.store.output? r = some b) (ht : b.recent? = some text) :
    (Script.callMethod (some r) "recent" [] : Eval Bench _).run.run w =
      (.ok (.ok (some w.outside.store.heap.objects.size)),
        w.happening [.made (.text text) rfl]) := by
  unfold Script.callMethod
  rw [Eval.run_quiet_bind]
  have hget : (ReaderT.run (Store.object (some r)) w.descriptors w.outside).1 = .output b :=
    get_of_output? hb
  rw [hget]
  dsimp only
  rw [ht]
  rfl

theorem run_callMethod_value {b : OutputBuffer} (hb : w.outside.store.output? r = some b) :
    (Script.callMethod (some r) "value" [] : Eval Bench _).run.run w =
      (.ok (.ok (some w.outside.store.heap.objects.size)),
        w.happening [.made (.text b.text) rfl]) := by
  have hget : (ReaderT.run (Store.object (some r)) w.descriptors w.outside).1 = .output b :=
    get_of_output? hb
  unfold Script.callMethod
  rw [Eval.run_quiet_bind, hget]
  rfl

theorem run_callMethod_mark {b : OutputBuffer} (hb : w.outside.store.output? r = some b) :
    ∃ v : Ref, (Script.callMethod (some r) "mark" [] : Eval Bench _).run.run w =
      (.ok (.ok (some v)), w.happening [.marked r, .made .none rfl]) := by
  have hget : (ReaderT.run (Store.object (some r)) w.descriptors w.outside).1 = .output b :=
    get_of_output? hb
  have hmark : (Event.marked r).apply w.outside.store =
      { w.outside.store with heap := w.outside.store.heap.set r (.output b.moveMark) } := by
    rw [Event.apply, Store.changing, get_of_output? hb]
    rfl
  have hrun : (Script.callMethod (some r) "mark" [] : Eval Bench _).run.run w =
      (Eval.quiet (Store.modifyHeap fun h => h.set r (.output b.moveMark)) >>= fun _ =>
        Eval.make .none : Eval Bench _).run.run w := by
    unfold Script.callMethod
    rw [Eval.run_quiet_bind, hget]
    rfl
  rw [hrun, Eval.run_quiet_bind, Session.happening, Store.after_cons, hmark]
  exact ⟨_, rfl⟩

/-- Running source that calls a method of the buffer calls the method. -/
theorem run_runText_method (hname : w.outside.store.binding? scope name = some (some r))
    {method : String}
    (hparse : Expr.ofText (methodCall method).toList = .ok (.method (.name name) method [])) :
    (Script.runText call k (some scope) .eval (methodCall method)).run.run w =
      (Script.callMethod (some r) method [] : Eval Bench _).run.run w := by
  unfold Script.runText
  rw [hparse]
  exact run_eval_method hname

/-- Running the source that moves the mark. -/
theorem run_runText_mark (hname : w.outside.store.binding? scope name = some (some r))
    {b : OutputBuffer} (hb : w.outside.store.output? r = some b) :
    ∃ v : Ref, (Script.runText call k (some scope) .file (methodCall "mark")).run.run w =
      (.ok (.ok (some v)), w.happening [.marked r, .made .none rfl, .made .none rfl]) := by
  obtain ⟨v, hcall⟩ := run_callMethod_mark hb
  have hone : (Script.executeOne call k (some scope)
      (.evaluate (.method (.name name) "mark" []))).run.run w =
        (.ok (.ok ()), w.happening [.marked r, .made .none rfl]) := by
    unfold Script.executeOne
    exact Exec.run_bind_of_ok ((run_eval_method hname).trans hcall)
  refine ⟨(w.happening [.marked r, .made .none rfl]).outside.store.heap.objects.size, ?_⟩
  unfold Script.runText
  rw [block_mark]
  exact Exec.run_bind_of_ok hone

/-! ### The operations of the context -/

theorem exists_names_of_binding? {s : Store} {x : String} {v : Option Ref}
    (h : s.binding? scope x = some v) : ∃ names, s.heap.get (some scope) = .dict names := by
  rw [Store.binding?] at h
  cases ho : s.heap.get (some scope) with
  | dict names => exact ⟨names, rfl⟩
  | _ =>
    rw [ho] at h
    cases h

theorem run_dictGet (x : String) :
    ((Script.interface call k).dictGet (some scope) x).run.run w =
      (.ok (w.outside.store.binding? scope x).join, w) := by
  have hrun : ((Script.interface call k).dictGet (some scope) x).run.run w =
      (Except.ok (ReaderT.run (Store.find (some scope) x) w.descriptors w.outside).1.join,
        { w with
          outside := (ReaderT.run (Store.find (some scope) x) w.descriptors w.outside).2 }) := rfl
  rw [hrun, find_eq]

theorem bind_eq {names : Bindings (Option Ref)}
    (h : w.outside.store.heap.get (some scope) = .dict names) (x : String) (v : Option Ref) :
    ReaderT.run (Store.bind (some scope) x v) w.descriptors w.outside =
      (true, (w.happening [.bound scope x v]).outside) := by
  have hget : (ReaderT.run (Store.object (some scope)) w.descriptors w.outside).1 =
      .dict names := h
  have hbound : (Event.bound scope x v).apply w.outside.store =
      { w.outside.store with
        heap := w.outside.store.heap.set scope (.dict (names.insert x v)) } := by
    rw [Event.apply, Store.changing, h]
    rfl
  unfold Store.bind
  rw [Quiet.run_bind, hget, Session.happening, Store.after_cons, hbound]
  rfl

theorem run_dictSet {names : Bindings (Option Ref)}
    (h : w.outside.store.heap.get (some scope) = .dict names) (x : String) (v : Option Ref) :
    ((Script.interface call k).dictSet (some scope) x v).run.run w =
      (.ok true, w.happening [.bound scope x v]) := by
  change (Script.dictSet k (some scope) x v).run.run w = _
  unfold Script.dictSet
  rw [Quiet.run_run, Quiet.run_bind, bind_eq h]
  rfl

/-- What happens before source is run: the built-in names are bound unless they are. -/
def upkeep (c : Context) (k : Nat) (w : Session) : List Event :=
  if (w.outside.store.binding? c.globals Context.builtinsName).join.isNone then
    [.bound c.globals Context.builtinsName
      (some ((w.outside.store.machines[k]?).getD default).builtins)]
  else []

theorem isUpkeep_upkeep (c : Context) (k : Nat) (w : Session) :
    ∀ e ∈ upkeep c k w, e.isUpkeep = true := by
  unfold upkeep
  split <;> simp [Event.isUpkeep]

theorem run_ensureBuiltins {c : Context} {names : Bindings (Option Ref)}
    (h : w.outside.store.heap.get (some c.globals) = .dict names) :
    (Context.ensureBuiltins (Script.interface call k) c).run w =
      (.ok (), w.happening (upkeep c k w)) := by
  have hbuiltins : (Script.interface call k).builtins.run.run w =
      (.ok (some ((w.outside.store.machines[k]?).getD default).builtins), w) := rfl
  unfold Context.ensureBuiltins upkeep
  rw [Exec.run_bind_of_ok (run_dictGet _)]
  split
  · rw [Exec.run_bind_of_ok hbuiltins, if_pos Option.isSome_some,
      Exec.run_bind_of_ok (run_dictSet h _ _)]
    rfl
  · rfl

/-- Source that gives an object is run once the built-in names are bound. -/
theorem run_execute {c : Context} {names : Bindings (Option Ref)}
    (h : w.outside.store.heap.get (some c.globals) = .dict names) {source : String}
    (hcrosses : Image.crosses source = true) (mode : Mode) (showErrors : Bool) {v : Ref}
    {w' : Session} (hv : ((Script.interface call k).runString source mode c.globals).run
      (w.happening (upkeep c k w)) = (.ok (some v), w')) :
    (c.execute (Script.interface call k) source mode showErrors).run w = (.ok (some v), w') := by
  unfold Context.execute
  rw [if_pos hcrosses, Exec.run_bind_of_ok (run_ensureBuiltins h), Exec.run_bind_of_ok hv]
  rfl

/-- Source other than that which makes a buffer is run as text. -/
theorem run_runString {source : String} (hne : (source == Capture.source) = false) {mode : Mode}
    {globals : Option Ref} {v : Option Ref} {w' : Session}
    (h : (Script.runText call k globals mode source).run.run (w.happening [.ran k source]) =
      (.ok (.ok v), w')) :
    ((Script.interface call k).runString source mode globals).run w = (.ok v, w') := by
  change (Script.runString call k source mode globals).run w = _
  unfold Script.runString
  rw [Exec.run_bind_of_ok (Quiet.run_run _ _), hne, if_neg Bool.false_ne_true]
  exact Exec.run_bind_of_ok h

end

/-! ### Reading the buffer -/

/-- The mark of every buffer stays at a character, whatever is done. -/
theorem stable_marked : Session.Stable True fun w => w.outside.store.Marked where
  toLasting := by
    refine .of_change (fun _ ha _ hw => ?_) fun _ _ _ call _ args =>
      (call args).obeys_of_direct trivial
    obtain ⟨es, hes⟩ := ha.events
    rw [hes]
    exact Store.marked_after hw es
  counted _ hw := hw

/-- The namespace of a context over a scripted interpreter holds a buffer, and the mark of every
buffer is at a character. -/
structure Holds (c : Context) (k : Nat) (r : Ref) (w : Session) : Prop where
  machine : c.machine = .scripted k
  opened : c.number < w.capturing.size
  bound : w.outside.store.binding? c.globals name = some (some r)
  buffer : (w.outside.store.output? r).isSome = true
  marked : w.outside.store.Marked

variable {call : Script.Caller Bench} {c : Context} {k : Nat} {r : Ref} {w v : Session}

namespace Holds

/-- A buffer that is held gives out what is unread. -/
theorem exists_recent (h : Holds c k r w) :
    ∃ b text, w.outside.store.output? r = some b ∧ b.recent? = some text := by
  obtain ⟨b, hb⟩ := Option.isSome_iff_exists.mp h.buffer
  obtain ⟨text, ht⟩ := Option.isSome_iff_exists.mp (h.marked r b hb)
  exact ⟨b, text, hb, ht⟩

/-- The buffer is held as long as its name is not bound again. -/
theorem after (h : Holds c k r w) {es : List Event}
    (hes : v.outside.store = w.outside.store.after es)
    (hbinds : ∀ e ∈ es, e.binds c.globals name = false)
    (hopened : c.number < v.capturing.size) : Holds c k r v where
  machine := h.machine
  opened := hopened
  bound := hes ▸ Store.binding?_after h.bound hbinds
  buffer := by
    obtain ⟨b, text, hb, ht⟩ := h.exists_recent
    obtain ⟨b', hb', -⟩ := Store.recent?_after hb ht es
    rw [hes, hb']
    rfl
  marked := hes ▸ Store.marked_after h.marked es

theorem of_outside (h : Holds c k r w) (hv : v.outside = w.outside)
    (hopened : c.number < v.capturing.size) : Holds c k r v := by
  have hes : v.outside.store = w.outside.store.after [] := congrArg _ hv
  exact h.after hes (by simp) hopened

end Holds

theorem binds_of_isUpkeep {e : Event} (he : e.isUpkeep = true) (scope : Ref) :
    e.binds scope name = false := by
  cases e with
  | bound scope' name' value =>
    have hname : name' = Context.builtinsName := beq_iff_eq.mp he
    have hne : (Context.builtinsName == name) = false := by decide
    rw [Event.binds, hname, hne, Bool.and_false]
  | _ => rfl

theorem Holds.happening (h : Holds c k r w) {es : List Event}
    (hes : ∀ e ∈ es, e.isUpkeep = true) : Holds c k r (w.happening es) :=
  h.after rfl (fun e he => binds_of_isUpkeep (hes e he) c.globals) h.opened

theorem output?_of_isUpkeep {s : Store} {b : OutputBuffer} (h : s.output? r = some b)
    {es : List Event} (hes : ∀ e ∈ es, e.isUpkeep = true) : (s.after es).output? r = some b := by
  induction es generalizing s with
  | nil => exact h
  | cons e es ih =>
    refine ih ?_ fun e' he' => hes e' (.tail e he')
    have he := hes e List.mem_cons_self
    rw [Store.output?_apply, h]
    cases e <;> first | rfl | cases he

/-- A text converts to itself. -/
theorem run_strOf {v : Ref} {text : String} (h : w.outside.store.heap.get (some v) = .text text) :
    (Context.strOf (Script.interface call k) (some v)).run w = (.ok (some text), w) := by
  have hstr : ((Script.interface call k).strOf (some v)).run.run w =
      (.ok (some (w.outside.store.heap.str w.descriptors (some v))), w) := rfl
  unfold Context.strOf
  rw [Exec.run_bind_of_ok hstr, Script.Heap.str, h]
  rfl

/-- Upkeep writes nothing and moves no mark. -/
theorem unread_of_isUpkeep (s : Store) (text : String) {es : List Event}
    (hes : ∀ e ∈ es, e.isUpkeep = true) : s.unread r text es = text := by
  induction es generalizing s with
  | nil => rfl
  | cons e es ih =>
    have he := hes e List.mem_cons_self
    have hcalm : e.marks r = false ∧ e.textTo s r = "" := by
      cases e <;> first | exact ⟨rfl, rfl⟩ | cases he
    rw [Store.unread, hcalm.1, hcalm.2, if_neg Bool.false_ne_true, String.append_empty,
      ih (e.apply s) fun e' he' => hes e' (.tail e he')]

variable (call) in
/-- The text that a method of the buffer gives is read. -/
theorem run_read_of (h : Holds c k r w) {method text : String}
    (hcrosses : Image.crosses method = true)
    (hparse : Expr.ofText (methodCall method).toList = .ok (.method (.name name) method []))
    (hcall : ∀ v : Session, v.outside.store.output? r = w.outside.store.output? r →
      (Script.callMethod (some r) method [] : Eval Bench _).run.run v =
        (.ok (.ok (some v.outside.store.heap.objects.size)),
          v.happening [.made (.text text) rfl])) :
    ∃ es, (∀ e ∈ es, e.isUpkeep = true) ∧
      (read (Script.interface call k) c method).run w = (.ok text, w.happening es) := by
  obtain ⟨names, hnames⟩ := exists_names_of_binding? h.bound
  obtain ⟨b, hb⟩ := Option.isSome_iff_exists.mp h.buffer
  have hes := isUpkeep_upkeep c k w
  have hran : ∀ e ∈ upkeep c k w ++ [.ran k (methodCall method)], e.isUpkeep = true := by
    simpa [or_imp, forall_and, Event.isUpkeep] using hes
  have htext := (@run_runText_method call k _ _ _ (h.happening hran).bound method hparse).trans
    (hcall _ ((output?_of_isUpkeep hb hran).trans hb.symm))
  rw [Session.happening_append] at htext
  have hexec := run_execute hnames ((crosses_methodCall method).trans hcrosses) .eval false
    (run_runString (methodCall_ne_source method) htext)
  refine ⟨upkeep c k w ++ [.ran k (methodCall method), .made (.text text) rfl], ?_, ?_⟩
  · simpa [or_imp, forall_and, Event.isUpkeep] using hes
  · unfold read
    rw [Exec.run_bind_of_ok hexec]
    dsimp only
    rw [Exec.run_bind_of_ok (run_strOf (Script.Heap.get_alloc_self _ _)),
      ← Session.happening_append, ← Session.happening_append, List.append_assoc]
    rfl

variable (call) in
/-- What is unread is read. -/
theorem run_read (h : Holds c k r w) {b : OutputBuffer} {text : String}
    (hb : w.outside.store.output? r = some b) (ht : b.recent? = some text) :
    ∃ es, (∀ e ∈ es, e.isUpkeep = true) ∧
      (read (Script.interface call k) c "recent").run w = (.ok text, w.happening es) :=
  run_read_of call h (by simp [Image.crosses]) ofText_recent fun _ hv =>
    run_callMethod_recent (hv.trans hb) ht

variable (call) in
/-- The mark is moved. -/
theorem run_mark (h : Holds c k r w) :
    ∃ es fs, (∀ e ∈ es ++ fs, e.isUpkeep = true) ∧ ∃ v : Ref,
      (c.execute (Script.interface call k) (methodCall "mark") .file false).run w =
        (.ok (some v), w.happening (es ++ .marked r :: fs)) := by
  obtain ⟨names, hnames⟩ := exists_names_of_binding? h.bound
  obtain ⟨b, hb⟩ := Option.isSome_iff_exists.mp h.buffer
  have hes := isUpkeep_upkeep c k w
  have hran : ∀ e ∈ upkeep c k w ++ [.ran k (methodCall "mark")], e.isUpkeep = true := by
    simpa [or_imp, forall_and, Event.isUpkeep] using hes
  have hholds := h.happening hran
  obtain ⟨v, hmark⟩ :=
    @run_runText_mark call k _ _ _ hholds.bound _ (output?_of_isUpkeep hb hran)
  rw [Session.happening_append] at hmark
  have hcrosses : Image.crosses (methodCall "mark") = true :=
    (crosses_methodCall "mark").trans (by simp [Image.crosses])
  have hexec := run_execute hnames hcrosses .file false
    (run_runString (methodCall_ne_source "mark") hmark)
  refine ⟨upkeep c k w ++ [.ran k (methodCall "mark")], [.made .none rfl, .made .none rfl], ?_, v,
    ?_⟩
  · simpa [or_imp, forall_and, Event.isUpkeep] using hes
  · rw [hexec, ← Session.happening_append, ← Session.happening_append, List.append_assoc]

/-- A context captures output, and text is unread in its buffer. -/
structure Listening (c : Context) (k : Nat) (r : Ref) (text : String) (w : Session) : Prop
    extends Holds c k r w where
  capturing : w.capturing[c.number]? = some true
  unread : ∃ b, w.outside.store.output? r = some b ∧ b.recent? = some text

/-- What is unread in buffers other than one stays. -/
def Spares (r : Ref) (w v : Session) : Prop :=
  ∀ c k r' text, r' ≠ r → Listening c k r' text w → Listening c k r' text v

theorem Spares.trans {u : Session} (h : Spares r u v) (h' : Spares r v w) : Spares r u w :=
  fun c k r' text hr hu => h' c k r' text hr (h c k r' text hr hu)

/-- What is unread after events. -/
theorem Listening.after {text : String} (h : Listening c k r text w) {es : List Event}
    (hes : v.outside.store = w.outside.store.after es)
    (hbinds : ∀ e ∈ es, e.binds c.globals name = false)
    (hcapturing : v.capturing[c.number]? = some true) :
    Listening c k r (w.outside.store.unread r text es) v where
  toHolds := h.toHolds.after hes hbinds (Array.getElem?_eq_some_iff.mp hcapturing).1
  capturing := hcapturing
  unread := by
    obtain ⟨b, hb, ht⟩ := h.unread
    rw [hes]
    exact Store.recent?_after hb ht es

variable (call) in
/-- A drain gives what is unread and moves the mark to the end. -/
theorem run_drain {text : String} (h : Listening c k r text w) :
    ∃ es fs, (∀ e ∈ es ++ fs, e.isUpkeep = true) ∧
      (drain (Script.interface call k) c).run w =
        (.ok text, w.happening (es ++ .marked r :: fs)) := by
  obtain ⟨b, hb, ht⟩ := h.unread
  obtain ⟨es, hes, hread⟩ := run_read call h.toHolds hb ht
  obtain ⟨fs, gs, hfs, v, hmark⟩ := run_mark call (h.toHolds.happening hes)
  refine ⟨es ++ fs, gs, ?_, ?_⟩
  · simpa [or_imp, forall_and, and_assoc] using ⟨hes, by simpa [or_imp, forall_and] using hfs⟩
  · unfold drain
    rw [Exec.run_bind_of_ok (Context.run_isCapturing_of_capturing h.capturing), if_pos rfl,
      Exec.run_bind_of_ok hread, Exec.run_bind_of_ok hmark, ← Session.happening_append,
      List.append_assoc]
    rfl

variable (call) in
/-- After a drain nothing is unread, output goes where it went, and what is unread in other buffers
stays. -/
theorem Listening.exists_run_drain {text : String} (h : Listening c k r text w) :
    ∃ v, (drain (Script.interface call k) c).run w = (.ok text, v) ∧ Listening c k r "" v ∧
      (∀ m, v.outside.store.sink? m = w.outside.store.sink? m) ∧ Spares r w v := by
  obtain ⟨es, fs, hupkeep, hrun⟩ := run_drain call h
  have hes : ∀ e ∈ es, e.isUpkeep = true := fun e he => hupkeep e (List.mem_append_left fs he)
  have hfs : ∀ e ∈ fs, e.isUpkeep = true := fun e he => hupkeep e (List.mem_append_right es he)
  have hall (P : Event → Prop) (hP : ∀ e, e.isUpkeep = true → P e) (hmark : P (.marked r)) :
      ∀ e ∈ es ++ .marked r :: fs, P e := by
    intro e he
    rcases List.mem_append.mp he with he | he
    · exact hP e (hes e he)
    · rcases List.mem_cons.mp he with rfl | he
      · exact hmark
      · exact hP e (hfs e he)
  have hbinds (scope : Ref) : ∀ e ∈ es ++ .marked r :: fs, e.binds scope name = false :=
    hall _ (fun e he => binds_of_isUpkeep he scope) rfl
  have hunread (r' : Ref) (old : String) :
      w.outside.store.unread r' old (es ++ .marked r :: fs) = if r = r' then "" else old := by
    rw [Store.unread_append, unread_of_isUpkeep _ _ hes, Store.unread, unread_of_isUpkeep _ _ hfs]
    change (if decide (r = r') = true then "" else old ++ "") = _
    rw [String.append_empty]
    simp only [decide_eq_true_eq]
  refine ⟨_, hrun, ?_, ?_, ?_⟩
  · have hafter := h.after (v := w.happening (es ++ .marked r :: fs)) rfl (hbinds _) h.capturing
    rwa [hunread, if_pos rfl] at hafter
  · refine fun m => Store.sink?_after _ (hall _ (fun e he => ?_) rfl)
    cases e <;> first | rfl | cases he
  · intro c' k' r' text' hr h'
    have hafter := h'.after (v := w.happening (es ++ .marked r :: fs)) rfl (hbinds _) h'.capturing
    rwa [hunread, if_neg fun heq => hr heq.symm] at hafter

end Capture

end ClosureBridge
