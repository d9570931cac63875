import ClosureBridge.Proofs.Interpreter.Growth

/-!
# What happens in a store

Whatever an operation of an interpreter does to a store is a list of events: an object is made, a
name is bound, text is written, an error gets pending. A printed text goes where output goes at that
moment, so an event does what it does to the store that it meets.

## Main definitions

* `Script.Event`, `Script.Event.apply`: what can happen, and the store after it.
* `Script.Store.after`, `Script.Store.Leads`: the store after events.
* `Script.Store.isSame`: a comparison of stores that can be computed.
* `Script.Emits`: an operation that is a list of events, with no error among them unless it may
  raise one, and no writing unless it may write.
* `Interpreter.Calm`: an interpreter whose operations are events.

## Main statements

* `Script.Store.grows_after`: under events a store only grows.
* `Bench.calm_machine`: the operations of every interpreter on a bench are events.
-/

namespace ClosureBridge.Script

/-! ### Events -/

namespace Object

/-- A namespace with a name bound. -/
def bindName (name : String) (value : Option Ref) : Object → Option Object
  | dict names => some (dict (names.insert name value))
  | _ => .none

/-- A record with an attribute set. -/
def setAttribute (name : String) (value : Option Ref) : Object → Option Object
  | record names => some (record (names.insert name value))
  | _ => .none

/-- An output buffer changed. -/
def onBuffer (f : OutputBuffer → OutputBuffer) : Object → Option Object
  | output buffer => some (output (f buffer))
  | _ => .none

/-- An output buffer. -/
def isBuffer : Object → Bool
  | output _ => true
  | _ => false

theorem isBuffer_none : isBuffer none = false := rfl

theorem isBuffer_function (ps : List String) (body : Expr) :
    isBuffer (function ps body) = false := rfl

end Object

theorem isBuffer_of_constant? {name : String} {o : Object} (h : constant? name = some o) :
    o.isBuffer = false := by
  unfold constant? at h
  split at h <;> cases h <;> rfl

namespace Operator

theorem isBuffer_of_ofWord {r : Except Overflow Int64} {o : Object} (h : ofWord r = .object o) :
    o.isBuffer = false := by
  cases r <;> cases h
  rfl

theorem isBuffer_of_negate {a o : Object} (h : negate a = .object o) : o.isBuffer = false := by
  unfold negate at h
  split at h
  · exact isBuffer_of_ofWord h
  · cases h
    rfl
  · cases h

theorem isBuffer_of_binary {op : BinaryOp} {a b o : Object} (h : binary op a b = .object o) :
    o.isBuffer = false := by
  unfold binary at h
  split at h
  case h_3 =>
    split at h
    · cases h
    · exact isBuffer_of_ofWord h
  all_goals first | exact isBuffer_of_ofWord h | (cases h; rfl) | cases h

end Operator

/-- What happens in a store. -/
inductive Event where
  /-- An object is made that is no output buffer. -/
  | made (o : Object) (h : o.isBuffer = false)
  /-- An empty output buffer is made. -/
  | opened
  /-- A name is bound in a namespace. -/
  | bound (scope : Ref) (name : String) (value : Option Ref)
  /-- An attribute of a record is set. -/
  | attributed (target : Ref) (name : String) (value : Option Ref)
  /-- Text is written to a buffer by name. -/
  | wrote (buffer : Ref) (text : String)
  /-- The mark of a buffer moves to the end. -/
  | marked (buffer : Ref)
  /-- An interpreter prints text. -/
  | printed (m : Nat) (text : String)
  /-- An error gets pending, or none is any more. -/
  | pended (m : Nat) (fault : Option Fault)
  /-- An interpreter runs source. -/
  | ran (m : Nat) (source : String)
  /-- The output of an interpreter goes to a buffer from now on. -/
  | redirected (m : Nat) (sink : Option Ref)
  /-- An interpreter is made. -/
  | added (textConstructor : Bool)

namespace Store

/-- The store with an object changed, unless the change does not apply to it. -/
def changing (s : Store) (r : Ref) (f : Object → Option Object) : Store :=
  match f (s.heap.get (some r)) with
  | some o => { s with heap := s.heap.set r o }
  | none => s

/-- The store with an interpreter changed. -/
def modifying (s : Store) (m : Nat) (f : Machine → Machine) : Store :=
  { s with machines := s.machines.modify m f }

/-- The buffer that the output of an interpreter goes to. -/
def sink? (s : Store) (m : Nat) : Option Ref :=
  ((s.machines[m]?).getD default).sink

/-- The store after an interpreter has printed text. -/
def printing (s : Store) (m : Nat) (text : String) : Store :=
  match s.sink? m with
  | none => s.modifying m fun x => { x with console := x.console ++ text }
  | some r => s.changing r (Object.onBuffer fun b => b.write text)

/-- The store with one more interpreter. -/
def adding (s : Store) (textConstructor : Bool) : Store :=
  let (main, heap) := s.heap.alloc (.dict ∅)
  let (builtins, heap) := heap.alloc (.dict ∅)
  ⟨heap, s.machines.push { main, builtins, textConstructor }⟩

end Store

namespace Event

/-- The store after an event. -/
def apply (s : Store) : Event → Store
  | made o _ => { s with heap := (s.heap.alloc o).2 }
  | opened => { s with heap := (s.heap.alloc (.output {})).2 }
  | bound scope name value => s.changing scope (Object.bindName name value)
  | attributed target name value => s.changing target (Object.setAttribute name value)
  | wrote buffer text => s.changing buffer (Object.onBuffer fun b => b.write text)
  | marked buffer => s.changing buffer (Object.onBuffer OutputBuffer.moveMark)
  | printed m text => s.printing m text
  | pended m fault => s.modifying m fun x => { x with pending := fault }
  | ran m source => s.modifying m fun x => { x with executed := source :: x.executed }
  | redirected m sink => s.modifying m fun x => { x with sink }
  | added textConstructor => s.adding textConstructor

/-- Whether an error gets pending. -/
def isRaise : Event → Bool
  | pended _ (some _) => true
  | _ => false

/-- Whether text is written, by name or by printing it. -/
def isWrite : Event → Bool
  | wrote _ _ => true
  | printed _ _ => true
  | _ => false

/-- An error gets pending, or text is written, only where that may happen. -/
structure Permitted (raises writes : Prop) (e : Event) : Prop where
  raise : e.isRaise = true → raises
  write : e.isWrite = true → writes

theorem Permitted.of_plain {raises writes : Prop} {e : Event} (hr : e.isRaise = false)
    (hw : e.isWrite = false) : e.Permitted raises writes where
  raise h := absurd (hr.symm.trans h) Bool.false_ne_true
  write h := absurd (hw.symm.trans h) Bool.false_ne_true

end Event

namespace Store

/-- The store after events. -/
def after (s : Store) (es : List Event) : Store :=
  es.foldl Event.apply s

@[simp] theorem after_nil (s : Store) : s.after [] = s := rfl

@[simp] theorem after_cons (s : Store) (e : Event) (es : List Event) :
    s.after (e :: es) = (e.apply s).after es := rfl

theorem after_append (s : Store) (es fs : List Event) :
    s.after (es ++ fs) = (s.after es).after fs :=
  List.foldl_append

/-- What turns an object that may change into one of its type lets the store grow. -/
theorem grows_changing (s : Store) (r : Ref) {f : Object → Option Object}
    (hf : ∀ o o', f o = some o' → o'.typeName = o.typeName ∧ o.isFixed = false) :
    s.Grows (s.changing r f) := by
  unfold changing
  split
  · next o ho =>
    obtain ⟨ht, hfix⟩ := hf _ _ ho
    exact .set s rfl ht hfix
  · exact .refl s

theorem grows_onBuffer (s : Store) (r : Ref) (f : OutputBuffer → OutputBuffer) :
    s.Grows (s.changing r (Object.onBuffer f)) := by
  refine s.grows_changing r fun o o' h => ?_
  cases o with
  | output buffer =>
    cases h
    exact ⟨rfl, rfl⟩
  | _ => cases h

/-- Under an event a store only grows. -/
theorem grows_apply (s : Store) (e : Event) : s.Grows (e.apply s) := by
  cases e with
  | made o _ => exact .alloc s o
  | opened => exact .alloc s (.output {})
  | bound scope name value =>
    refine s.grows_changing scope fun o o' h => ?_
    cases o with
    | dict names =>
      cases h
      exact ⟨rfl, rfl⟩
    | _ => cases h
  | attributed target name value =>
    refine s.grows_changing target fun o o' h => ?_
    cases o with
    | record names =>
      cases h
      exact ⟨rfl, rfl⟩
    | _ => cases h
  | wrote buffer text => exact s.grows_onBuffer buffer _
  | marked buffer => exact s.grows_onBuffer buffer _
  | printed m text =>
    rw [Event.apply, printing]
    split
    · exact .modify s m fun _ => ⟨rfl, rfl, rfl⟩
    · exact s.grows_onBuffer _ _
  | pended m fault => exact .modify s m fun _ => ⟨rfl, rfl, rfl⟩
  | ran m source => exact .modify s m fun _ => ⟨rfl, rfl, rfl⟩
  | redirected m sink => exact .modify s m fun _ => ⟨rfl, rfl, rfl⟩
  | added textConstructor =>
    refine ((Grows.alloc s (.dict ∅)).trans (.alloc _ (.dict ∅))).trans ?_
    refine ⟨fun ho => ⟨_, ho, rfl, fun _ => rfl⟩, fun hm => ?_⟩
    have hlt := (Array.getElem?_eq_some_iff.mp hm).1
    exact ⟨_, (Array.getElem?_push_lt hlt).trans ((Array.getElem?_eq_getElem hlt).symm.trans hm),
      rfl, rfl, rfl⟩

/-- Under events a store only grows. -/
theorem grows_after (s : Store) (es : List Event) : s.Grows (s.after es) := by
  induction es generalizing s with
  | nil => exact .refl s
  | cons e es ih => exact (s.grows_apply e).trans (ih _)

/-- A store turns into another by events. -/
def Leads (s t : Store) : Prop :=
  ∃ es, t = s.after es

namespace Leads

variable {s t u : Store}

theorem refl (s : Store) : s.Leads s :=
  ⟨[], rfl⟩

theorem trans (h : s.Leads t) (h' : t.Leads u) : s.Leads u := by
  obtain ⟨es, rfl⟩ := h
  obtain ⟨fs, rfl⟩ := h'
  exact ⟨es ++ fs, (s.after_append es fs).symm⟩

theorem grows (h : s.Leads t) : s.Grows t := by
  obtain ⟨es, rfl⟩ := h
  exact s.grows_after es

end Leads

end Store

/-! ### Stores compared -/

/-- Whether two objects are the same, which is told of the simple ones only: source and numbers with
a point are not compared. -/
def Object.isSame : Object → Object → Bool
  | none, none => true
  | boolean b, boolean b' => b == b'
  | integer n, integer n' => n == n'
  | text s, text s' => s == s'
  | dict names, dict names' => names == names'
  | output b, output b' => b == b'
  | code, code => true
  | _, _ => false

theorem Object.eq_of_isSame {o o' : Object} (h : o.isSame o' = true) : o = o' := by
  unfold isSame at h
  split at h <;> simp_all

/-- Whether two stores are seen to be the same, object by object. -/
def Store.isSame (s t : Store) : Bool :=
  s.heap.objects.isEqv t.heap.objects Object.isSame && s.machines == t.machines

theorem Store.eq_of_isSame {s t : Store} (h : s.isSame t = true) : s = t := by
  obtain ⟨hobjects, hmachines⟩ := Bool.and_eq_true_iff.mp h
  obtain ⟨hsize, hsame⟩ := Array.isEqv_iff_rel.mp hobjects
  obtain ⟨⟨objects⟩, machines⟩ := s
  obtain ⟨⟨objects'⟩, machines'⟩ := t
  obtain rfl : objects = objects' :=
    Array.ext hsize fun i hi _ => Object.eq_of_isSame (hsame i hi)
  obtain rfl : machines = machines' := eq_of_beq hmachines
  rfl

/-! ### Operations that are events -/

variable {α β : Type} {raises writes : Prop}

/-- What an operation does to the store is a list of events; an error is raised and text is written
only if that may be, and the desk is left alone. -/
def Emits (raises writes : Prop) (q : Quiet Bench.Outside α) : Prop :=
  ∀ (d : DescriptorPool) (w : Bench.Outside), ∃ es : List Event,
    (∀ e ∈ es, e.Permitted raises writes) ∧
      (ReaderT.run q d w).2.store = w.store.after es ∧
      (ReaderT.run q d w).2.rest.desk = w.rest.desk

/-- Writing text is printing it. -/
theorem Store.run_write {δ : Type} (n : Nat) (text : String) (d : DescriptorPool)
    (w : Outside δ) :
    ReaderT.run (Store.write n text) d w = ((), { w with store := w.store.printing n text }) := by
  have hrun : ReaderT.run (Store.write n text) d w = ReaderT.run (match w.store.sink? n with
    | none => Store.modifyMachine n fun s => { s with console := s.console ++ text }
    | some r => do
      if let .output buffer ← Store.object (some r) then
        Store.modifyHeap fun h => h.set r (.output (buffer.write text))) d w := rfl
  rw [hrun, Store.printing]
  cases w.store.sink? n with
  | none => rfl
  | some r =>
    change ReaderT.run (match w.store.heap.get (some r) with
      | .output buffer => Store.modifyHeap fun h => h.set r (.output (buffer.write text))
      | _ => Pure.pure () : Quiet (Outside δ) Unit) d w = _
    dsimp only
    unfold Store.changing
    cases w.store.heap.get (some r) <;> rfl

namespace Emits

theorem leads {q : Quiet Bench.Outside α} (hq : Emits True True q) (d : DescriptorPool)
    (w : Bench.Outside) : w.store.Leads (ReaderT.run q d w).2.store := by
  obtain ⟨es, -, hes, -⟩ := hq d w
  exact ⟨es, hes⟩

theorem desk {q : Quiet Bench.Outside α} (hq : Emits True True q) (d : DescriptorPool)
    (w : Bench.Outside) : (ReaderT.run q d w).2.rest.desk = w.rest.desk := by
  obtain ⟨es, -, -, hdesk⟩ := hq d w
  exact hdesk

theorem pure (a : α) : Emits raises writes (Pure.pure a : Quiet Bench.Outside α) :=
  fun _ _ => ⟨[], by simp, rfl, rfl⟩

theorem bind {q : Quiet Bench.Outside α} {f : α → Quiet Bench.Outside β}
    (hq : Emits raises writes q) (hf : ∀ a, Emits raises writes (f a)) :
    Emits raises writes (q >>= f) := by
  intro d w
  obtain ⟨es, he, hes, hdesk⟩ := hq d w
  obtain ⟨fs, hf, hfs, hdesk'⟩ := hf (ReaderT.run q d w).1 d (ReaderT.run q d w).2
  refine ⟨es ++ fs, fun e h => ?_, ?_, hdesk'.trans hdesk⟩
  · rcases List.mem_append.mp h with h | h
    · exact he e h
    · exact hf e h
  · rw [Store.after_append, ← hes]
    exact hfs

/-- An operation that changes nothing. -/
theorem of_reads {q : Quiet Bench.Outside α} (h : ∀ d w, (ReaderT.run q d w).2 = w) :
    Emits raises writes q :=
  fun d w => ⟨[], by simp, by rw [h d w]; rfl, by rw [h d w]⟩

/-- An operation that is one event. -/
theorem of_event {q : Quiet Bench.Outside α} (e : Event) (he : e.Permitted raises writes)
    (h : ∀ d w, (ReaderT.run q d w).2.store = e.apply w.store)
    (hdesk : ∀ d w, (ReaderT.run q d w).2.rest.desk = w.rest.desk) : Emits raises writes q :=
  fun d w => ⟨[e], by simpa using he, h d w, hdesk d w⟩

theorem read : Emits raises writes (Store.read : Quiet Bench.Outside Store) :=
  of_reads fun _ _ => rfl

theorem machine (n : Nat) : Emits raises writes (Store.machine n : Quiet Bench.Outside Machine) :=
  of_reads fun _ _ => rfl

theorem object (r : Option Ref) :
    Emits raises writes (Store.object r : Quiet Bench.Outside Object) :=
  of_reads fun _ _ => rfl

theorem shown (r : Option Ref) :
    Emits raises writes (Store.shown r : Quiet Bench.Outside String) :=
  of_reads fun _ _ => rfl

theorem str (r : Option Ref) : Emits raises writes (Store.str r : Quiet Bench.Outside String) :=
  of_reads fun _ _ => rfl

theorem descriptors :
    Emits raises writes (readThe DescriptorPool : Quiet Bench.Outside DescriptorPool) :=
  of_reads fun _ _ => rfl

theorem find (scope : Option Ref) (name : String) :
    Emits raises writes (Store.find scope name : Quiet Bench.Outside _) := by
  unfold Store.find
  refine bind (object scope) fun o => ?_
  split <;> exact pure _

theorem alloc (o : Object) (h : o.isBuffer = false) :
    Emits raises writes (Store.alloc o : Quiet Bench.Outside (Option Ref)) :=
  of_event (.made o h) (.of_plain rfl rfl) (fun _ _ => rfl) fun _ _ => rfl

theorem allocBuffer :
    Emits raises writes (Store.alloc (.output {}) : Quiet Bench.Outside (Option Ref)) :=
  of_event .opened (.of_plain rfl rfl) (fun _ _ => rfl) fun _ _ => rfl

theorem ran (n : Nat) (source : String) :
    Emits raises writes
      (Store.modifyMachine n fun s => { s with executed := source :: s.executed } :
        Quiet Bench.Outside Unit) :=
  of_event (.ran n source) (.of_plain rfl rfl) (fun _ _ => rfl) fun _ _ => rfl

theorem raise (hr : raises) (n : Nat) (e : Fault) :
    Emits raises writes (Store.raise n e : Quiet Bench.Outside Unit) :=
  of_event (.pended n (some e)) ⟨fun _ => hr, by simp [Event.isWrite]⟩ (fun _ _ => rfl)
    fun _ _ => rfl

theorem takeFault (n : Nat) :
    Emits raises writes (Store.takeFault n : Quiet Bench.Outside (Option Fault)) :=
  of_event (.pended n none) (.of_plain rfl rfl) (fun _ _ => rfl) fun _ _ => rfl

/-- An object is looked at, and what follows may depend on it and change it. -/
theorem lookAt (r : Option Ref) {f : Object → Quiet Bench.Outside α}
    (hf : ∀ (d : DescriptorPool) (w : Bench.Outside), ∃ es : List Event,
      (∀ e ∈ es, e.Permitted raises writes) ∧
        (ReaderT.run (f (w.store.heap.get r)) d w).2.store = w.store.after es ∧
        (ReaderT.run (f (w.store.heap.get r)) d w).2.rest.desk = w.rest.desk) :
    Emits raises writes (Store.object r >>= f) :=
  fun d w => hf d w

/-- An object that was looked at is changed. -/
theorem change {w : Bench.Outside} {r : Ref} {f : Object → Option Object} {o : Object}
    (ho : f (w.store.heap.get (some r)) = some o) (d : DescriptorPool) :
    (ReaderT.run (Store.modifyHeap fun h => h.set r o) d w).2.store = w.store.changing r f := by
  rw [Store.changing, ho]
  rfl

theorem dictionary (scope : Option Ref) (name : String) (value : Option Ref) :
    Emits raises writes (Store.bind scope name value : Quiet Bench.Outside Bool) := by
  unfold Store.bind
  refine lookAt scope fun d w => ?_
  split
  · next r names ho =>
    refine ⟨[.bound r name value], by simpa using .of_plain rfl rfl, change ?_ d, rfl⟩
    rw [ho]
    rfl
  · exact ⟨[], by simp, rfl, rfl⟩

theorem write (hw : writes) (n : Nat) (text : String) :
    Emits raises writes (Store.write n text : Quiet Bench.Outside Unit) := by
  have hprinted : (Event.printed n text).Permitted raises writes :=
    ⟨by simp [Event.isRaise], fun _ => hw⟩
  refine of_event (.printed n text) hprinted (fun d w => ?_) fun d w => ?_
  · rw [Store.run_write]
    rfl
  · rw [Store.run_write]

theorem addMachine (b : Bool) :
    Emits raises writes (Store.addMachine b : Quiet Bench.Outside Nat) :=
  of_event (.added b) (.of_plain rfl rfl) (fun _ _ => rfl) fun _ _ => rfl

/-! ### The operations of a scripted interpreter -/

variable (n : Nat)

theorem build (v : Built) : Emits raises writes (build v : Quiet Bench.Outside (Option Ref)) := by
  cases v with
  | object r => exact pure _
  | _ => exact alloc _ rfl

theorem textOf (r : Option Ref) :
    Emits raises writes (textOf r : Quiet Bench.Outside (Option String)) := by
  unfold Script.textOf
  refine bind (object r) fun o => ?_
  split <;> exact pure _

theorem printFault (hw : writes) :
    Emits raises writes (printFault n : Quiet Bench.Outside Unit) := by
  unfold Script.printFault
  refine bind (takeFault n) fun e => ?_
  split
  · exact write hw n _
  · exact pure _

theorem redirect (out : Option Ref) :
    Emits raises writes (Store.modifyMachine n fun s => { s with sink := out } :
      Quiet Bench.Outside Unit) :=
  of_event (.redirected n out) (.of_plain rfl rfl) (fun _ _ => rfl) fun _ _ => rfl

theorem installOutput (globals : Option Ref) :
    Emits raises writes (installOutput n globals : Quiet Bench.Outside (Option Ref)) :=
  bind allocBuffer fun out => bind (dictionary _ _ _) fun _ =>
    bind (redirect n out) fun _ => alloc _ rfl

theorem ofPresent {f : Option Ref → Quiet Bench.Outside String}
    (hf : ∀ r, Emits raises writes (f r)) (r : Option Ref) :
    Emits raises writes (ofPresent f r) := by
  unfold Script.ofPresent
  split
  · exact bind (hf r) fun _ => pure _
  · exact pure _

section

variable (hr : raises)
include hr

theorem unpack (args : Option Ref) (format : TupleFormat) :
    Emits raises writes (unpack n args format : Quiet Bench.Outside (Option Unpacked)) := by
  unfold Script.unpack
  refine bind read fun s => ?_
  split
  · exact pure _
  · exact bind (raise hr n _) fun _ => pure _

theorem getAttr (target : Option Ref) (name : String) :
    Emits raises writes (getAttr n target name : Quiet Bench.Outside (Option Ref)) := by
  unfold Script.getAttr
  refine bind (object target) fun o => ?_
  split
  · exact pure _
  · exact bind (raise hr n _) fun _ => pure _

theorem setAttr (target : Option Ref) (name : String) (value : Option Ref) :
    Emits raises writes (setAttr n target name value : Quiet Bench.Outside Bool) := by
  unfold Script.setAttr
  refine lookAt target fun d w => ?_
  split
  · next r names ho =>
    refine ⟨[.attributed r name value], by simpa using .of_plain rfl rfl, change ?_ d, rfl⟩
    rw [ho]
    rfl
  · exact bind (raise hr n _) (fun _ => pure _) d w

theorem dictSet (scope : Option Ref) (name : String) (value : Option Ref) :
    Emits raises writes (dictSet n scope name value : Quiet Bench.Outside Bool) := by
  unfold Script.dictSet
  refine bind (dictionary scope name value) fun stored => ?_
  split
  · exact pure _
  · exact bind (raise hr n _) fun _ => pure _

theorem compile (text : String) (mode : Mode) :
    Emits raises writes (compile n text mode : Quiet Bench.Outside (Option Ref)) := by
  unfold Script.compile
  split
  · exact alloc _ rfl
  · exact bind (raise hr n _) fun _ => pure _

end

end Emits

end ClosureBridge.Script

namespace ClosureBridge

open Script (Emits)

/-- The operations of an interpreter are events. Only some of them raise errors, and only printing
the pending one writes text. Running source is not among them: it may run host code. -/
structure Interpreter.Calm (I : Interpreter Bench.Outside) : Prop where
  parseTuple : ∀ {writes : Prop} args format, Emits True writes (I.parseTuple args format)
  buildValue : ∀ {raises writes : Prop} v, Emits raises writes (I.buildValue v)
  newText : ∀ {raises writes : Prop} text, Emits raises writes (I.newText text)
  newCallable : ∀ {raises writes : Prop} d self, Emits raises writes (I.newCallable d self)
  textOf : ∀ {raises writes : Prop} r, Emits raises writes (I.textOf r)
  strOf : ∀ {raises writes : Prop} r, Emits raises writes (I.strOf r)
  reprOf : ∀ {raises writes : Prop} r, Emits raises writes (I.reprOf r)
  incref : ∀ {raises writes : Prop} r, Emits raises writes (I.incref r)
  decref : ∀ {raises writes : Prop} r, Emits raises writes (I.decref r)
  mainDict : ∀ {raises writes : Prop}, Emits raises writes I.mainDict
  newDict : ∀ {raises writes : Prop}, Emits raises writes I.newDict
  builtins : ∀ {raises writes : Prop}, Emits raises writes I.builtins
  dictGet : ∀ {raises writes : Prop} scope name, Emits raises writes (I.dictGet scope name)
  dictSet : ∀ {writes : Prop} scope name value, Emits True writes (I.dictSet scope name value)
  getAttr : ∀ {writes : Prop} target name, Emits True writes (I.getAttr target name)
  setAttr : ∀ {writes : Prop} target name value, Emits True writes (I.setAttr target name value)
  compile : ∀ {writes : Prop} text name mode, Emits True writes (I.compile text name mode)
  errorOccurred : ∀ {raises writes : Prop}, Emits raises writes I.errorOccurred
  printError : ∀ {raises writes : Prop}, writes → Emits raises writes I.printError
  clearError : ∀ {raises writes : Prop}, Emits raises writes I.clearError
  raiseRuntimeError : ∀ {writes : Prop} text, Emits True writes (I.raiseRuntimeError text)
  ensureStarted : ∀ {raises writes : Prop}, Emits raises writes I.ensureStarted

/-- The operations of a scripted interpreter are events. -/
theorem Script.calm_interface (call : Script.Caller Bench) (n : Nat) :
    (Script.interface call n).Calm where
  parseTuple := Emits.unpack n trivial
  buildValue := Emits.build
  newText text := by
    refine Emits.bind (.machine n) fun m => ?_
    split
    · exact .bind (.alloc _ rfl) fun _ => .pure _
    · exact .pure _
  newCallable _ _ := .alloc _ rfl
  textOf := Emits.textOf
  strOf := Emits.ofPresent Emits.str
  reprOf := Emits.ofPresent Emits.shown
  incref _ := .pure _
  decref _ := .pure _
  mainDict := .bind (.machine n) fun _ => .pure _
  newDict := .alloc _ rfl
  builtins := .bind (.machine n) fun _ => .pure _
  dictGet _ _ := .bind (.find _ _) fun _ => .pure _
  dictSet := Emits.dictSet n trivial
  getAttr := Emits.getAttr n trivial
  setAttr := Emits.setAttr n trivial
  compile _ _ _ := Emits.compile n trivial _ _
  errorOccurred := .bind (.machine n) fun _ => .pure _
  printError := Emits.printFault n
  clearError := .bind (.takeFault n) fun _ => .pure _
  raiseRuntimeError _ := .raise trivial n _
  ensureStarted := .pure _

namespace Bench

/-- What happens on the tape leaves the store alone. -/
theorem emits_onTape {raises writes : Prop} {α : Type} (q : Quiet Native.Tape α) :
    Emits raises writes (onTape q) :=
  fun _ _ => ⟨[], by simp, rfl, rfl⟩

/-- The operations of every interpreter on a bench are events. -/
theorem calm_machine (call : Script.Caller Bench) (m : MachineId) : (machine call m).Calm := by
  cases m with
  | scripted n => exact Script.calm_interface call n
  | native n textConstructor => constructor <;> intros <;> exact emits_onTape _

end Bench

end ClosureBridge
