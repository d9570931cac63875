import ClosureBridge.Proofs.Dispatch.Ending
import ClosureBridge.Proofs.Lambda.Calling

/-!
# Calls of functions

A closure that is a function of its arguments makes no requests. A call of its callable makes
objects, is counted and raises an error at most, and what comes of it is told by the arguments: the
object that the result is built into, or the one error that the call fails with.

## Main definitions

* `Closure.ofFunction`: a function of the arguments as a closure.
* `Session.Undisturbed`: nothing that was there has changed.
* `Dispatch.accepted`: the arguments that a closure is given for some objects.
* `Dispatch.outcome`: what comes of a call of a function.
* `Script.Heap.IsBuilt`: an object that is built from a value.
* `Session.Serves`, `Session.Runs`: calls of a callable reach the closure of its lambda, and the
  closure does what a function does.

## Main statements

* `Dispatch.accepted_of_grows`: a closure is given the same arguments later on.
* `Session.Serves.call_function`: what comes of a call of a callable that does what a function does.
-/

namespace ClosureBridge

open Script (Fault Heap Object Store)

namespace Closure

/-- A function of the arguments, which gives a result or panics, as a closure. -/
def ofFunction (f : Arguments → Except Payload HostValue) : Closure := fun args =>
  match f args with
  | .ok v => .done (t := .value) v
  | .error payload => .panic payload

variable {f : Arguments → Except Payload HostValue} {args : Arguments}

theorem ofFunction_of_ok {v : HostValue} (h : f args = .ok v) :
    ofFunction f args = .done (t := .value) v := by
  simp [ofFunction, h]

theorem ofFunction_of_error {payload : Payload} (h : f args = .error payload) :
    ofFunction f args = .panic payload := by
  simp [ofFunction, h]

/-- A function touches nothing. -/
theorem obeys_ofFunction (direct : Prop) (f : Arguments → Except Payload HostValue) :
    (ofFunction f).Obeys direct := by
  intro args
  unfold ofFunction
  split <;> exact trivial

end Closure

/-! ### Objects that are built from values -/

namespace Script

/-- What is built is a fixed object. -/
theorem Object.isFixed_of_ofBuilt? {v : Built} {o : Object} (h : Object.ofBuilt? v = some o) :
    o.isFixed = true := by
  cases v <;> cases h <;> rfl

/-- An object that is built from a value: the value's own object, or one that holds the value. -/
inductive Heap.IsBuilt (h : Heap) : Built → Option Ref → Prop where
  | object (r : Ref) : h.IsBuilt (.object r) (some r)
  | made {v : Built} {o : Object} {r : Ref} (hv : Object.ofBuilt? v = some o)
    (hr : h.objects[r]? = some o) : h.IsBuilt v (some r)

/-- What was built stays. -/
theorem Heap.IsBuilt.grows {s t : Store} {v : Built} {r : Option Ref} (h : s.heap.IsBuilt v r)
    (hg : s.Grows t) : t.heap.IsBuilt v r := by
  cases h with
  | object r => exact .object r
  | made hv hr => exact .made hv (hg.fixed hr (Object.isFixed_of_ofBuilt? hv))

/-- A reference that is missing or refers to an object. -/
def Heap.Live (h : Heap) (r : Option Ref) : Prop :=
  ∀ n, r = some n → n < h.objects.size

@[simp] theorem Heap.live_some {h : Heap} {n : Ref} :
    h.Live (some n) ↔ n < h.objects.size := by
  simp [Live]

theorem Heap.Live.grows {s t : Store} {r : Option Ref} (h : s.heap.Live r) (hg : s.Grows t) :
    t.heap.Live r := by
  intro n hn
  obtain ⟨o, ho, -⟩ := hg.objects (Array.getElem?_eq_getElem (h n hn))
  exact (Array.getElem?_eq_some_iff.mp ho).1

/-- Which objects are fixed is told by their types. -/
theorem Object.isFixed_eq (o : Object) :
    o.isFixed = !(["dict", "SimpleNamespace", "_PyLambdaOutput"].contains o.typeName) := by
  cases o <;> simp [isFixed, typeName]

/-- An object that is not fixed goes by its type in an argument tuple. -/
theorem Unpack.items_of_isFixed {o : Object} (h : o.isFixed = false) (format : TupleFormat)
    (given : List (Option Ref)) :
    items format o given =
      if format ∈ [.object, .objectPair, .objectTriple] then .ok (.objects (given.filterMap id))
      else .error (.typeError (expectation format ++ ", not " ++ o.typeName)) := by
  cases o <;> first | (cases h; done) | (cases format <;> rfl)

theorem Unpack.items_congr {o o' : Object} (ht : o'.typeName = o.typeName)
    (hfix : o.isFixed = true → o' = o) (format : TupleFormat) (given : List (Option Ref)) :
    items format o' given = items format o given := by
  cases h : o.isFixed with
  | true => rw [hfix h]
  | false =>
    have h' : o'.isFixed = false := by rw [Object.isFixed_eq, ht, ← Object.isFixed_eq, h]
    rw [items_of_isFixed h, items_of_isFixed h', ht]

end Script

/-! ### What a call leaves alone -/

namespace Session

/-- The lambdas and all objects are as they were; objects may have been made, calls counted and
errors raised. -/
structure Undisturbed (w w' : Session) : Prop where
  reaches : Reaches False w w'
  lambdas : w'.lambdas = w.lambdas
  objects : ∀ {r : Ref} {o : Object}, w.outside.store.heap.objects[r]? = some o →
    w'.outside.store.heap.objects[r]? = some o

namespace Undisturbed

variable {u v w w' : Session}

theorem refl (w : Session) : Undisturbed w w :=
  ⟨.refl, rfl, id⟩

theorem trans (h : Undisturbed u v) (h' : Undisturbed v w) : Undisturbed u w where
  reaches := h.reaches.trans h'.reaches
  lambdas := h'.lambdas.trans h.lambdas
  objects ho := h'.objects (h.objects ho)

theorem grows (h : Undisturbed w w') : w.outside.store.Grows w'.outside.store :=
  grows_of_reaches h.reaches

theorem counted (w : Session) (f : Stats → Stats) : Undisturbed w (w.counted f) :=
  ⟨.single (.counted f), rfl, id⟩

theorem making (w : Session) (o : Object) : Undisturbed w (w.making o) where
  reaches := .single (.outside (.alloc _ o))
  lambdas := rfl
  objects {r o'} ho := by
    have hlt := (Array.getElem?_eq_some_iff.mp ho).1
    change (w.outside.store.heap.objects.push o)[r]? = some o'
    rw [Array.getElem?_push, if_neg (Nat.ne_of_lt hlt), ho]

/-- A change of what an interpreter keeps beside its namespaces. -/
theorem modifying (w : Session) (k : Nat) {f : Script.Machine → Script.Machine}
    (hf : ∀ m, (f m).main = m.main ∧ (f m).builtins = m.builtins ∧
      (f m).textConstructor = m.textConstructor) :
    Undisturbed w { w with outside :=
      (ReaderT.run (Store.modifyMachine k f) w.descriptors w.outside).2 } :=
  ⟨.single (.outside (.modify _ k hf)), rfl, id⟩

theorem raising (w : Session) (k : Nat) (e : Fault) : Undisturbed w (w.raising k e) :=
  modifying w k fun _ => ⟨rfl, rfl, rfl⟩

theorem placed (w : Session) (v : Built) : Undisturbed w (Dispatch.placed w v).2 := by
  cases v with
  | object r => exact refl w
  | _ => exact making w _

end Undisturbed

end Session

/-! ### What comes of a call of a function -/

namespace Dispatch

/-- The arguments that a closure is given when it is called with some objects, or the error that it
refuses them with. -/
def accepted (w : Session) (args : List (Option Ref)) (kind : InputKind) :
    Except Fault Arguments :=
  unpacked (w.making (.tuple args)) (some w.outside.store.heap.objects.size) kind

/-- What comes of a call of a function with some objects: the value that the answer is built from,
or the error that the call fails with. -/
def outcome (w : Session) (shape : Shape) (f : Arguments → Except Payload HostValue)
    (args : List (Option Ref)) : Except Fault Built :=
  match accepted w args shape.input with
  | .error e => .error e
  | .ok arguments =>
    match f arguments with
    | .error payload => .error (panicFault payload)
    | .ok v =>
      match Marshal.prepare v shape.output with
      | .error e => .error (.runtime (crossing e.message))
      | .ok built => .ok built

/-- A call has an answer when the arguments are accepted and the function gives a value that can be
brought into the output kind and is then no text with a NUL in it: the answer is built from that. -/
theorem outcome_eq_ok_iff {w : Session} {shape : Shape}
    {f : Arguments → Except Payload HostValue} {args : List (Option Ref)} {built : Built} :
    outcome w shape f args = .ok built ↔
      ∃ arguments v u, accepted w args shape.input = .ok arguments ∧ f arguments = .ok v ∧
        v.coerce shape.output = some u ∧ u.crosses = true ∧ built = u.built := by
  unfold outcome
  cases accepted w args shape.input with
  | error e => simp
  | ok arguments =>
    dsimp only
    cases hf : f arguments with
    | error payload => simp [hf]
    | ok v =>
      dsimp only
      cases hv : Marshal.prepare v shape.output with
      | error e =>
        have hnone : ¬∃ u, v.coerce shape.output = some u ∧ u.crosses = true ∧ built = u.built :=
          fun h => by
            rw [Marshal.prepare_eq_ok_iff.mpr h] at hv
            cases hv
        simpa [hf] using hnone
      | ok b =>
        have hsome := @Marshal.prepare_eq_ok_iff v shape.output built
        rw [hv] at hsome
        simpa [hf] using hsome

/-- What was unpacked as the arguments of a kind, or the error that it is refused with. -/
def arranged (kind : InputKind) : Except Fault Unpacked → Except Fault Arguments
  | .error e => .error e
  | .ok parts =>
    match Marshal.arrange kind parts with
    | some arguments => .ok arguments
    | none => .error (.runtime (crossing (ArgumentError.mismatch kind).message))

theorem unpacked_eq (w : Session) (args : Option Ref) (kind : InputKind) :
    unpacked w args kind =
      arranged kind (Script.Unpack.tuple w.outside.store.heap args kind.format) := rfl

variable {w w' : Session} {args : List (Option Ref)}

/-- Whether a tuple is accepted is up to the number of its items and the first of them. -/
theorem accepted_eq (h : w.outside.store.heap.Live args.head?.join) (kind : InputKind) :
    accepted w args kind = arranged kind
      (if args.length = kind.format.arity then
        Script.Unpack.items kind.format (w.outside.store.heap.get args.head?.join) args
      else .error (Script.Unpack.wrongCount kind.format.arity args.length)) := by
  have htuple : (w.making (.tuple args)).outside.store.heap.get
    (some w.outside.store.heap.objects.size) = .tuple args := Heap.get_alloc_self _ _
  have hfirst : (w.making (.tuple args)).outside.store.heap.get args.head?.join =
      w.outside.store.heap.get args.head?.join := by
    cases hr : args.head?.join with
    | none => rfl
    | some r => exact Heap.get_alloc_of_lt _ _ (h r hr)
  rw [accepted, unpacked_eq, Script.Unpack.tuple, htuple]
  dsimp only
  rw [hfirst]

/-- A closure is given the same arguments later on. -/
theorem accepted_of_grows (h : w.outside.store.heap.Live args.head?.join)
    (hg : w.outside.store.Grows w'.outside.store) (kind : InputKind) :
    accepted w' args kind = accepted w args kind := by
  rw [accepted_eq h, accepted_eq (h.grows hg)]
  cases hr : args.head?.join with
  | none => rfl
  | some r =>
    obtain ⟨o, ho⟩ : ∃ o, w.outside.store.heap.objects[r]? = some o :=
      ⟨_, Array.getElem?_eq_getElem (h r hr)⟩
    obtain ⟨o', ho', ht, hfix⟩ := hg.objects ho
    rw [Heap.get_of_getElem? ho, Heap.get_of_getElem? ho', Script.Unpack.items_congr ht hfix]

/-- What comes of a call of a function is the same later on. -/
theorem outcome_of_grows (h : w.outside.store.heap.Live args.head?.join)
    (hg : w.outside.store.Grows w'.outside.store) (shape : Shape)
    (f : Arguments → Except Payload HostValue) :
    outcome w' shape f args = outcome w shape f args := by
  unfold outcome
  rw [accepted_of_grows h hg]

theorem isBuilt_placed (w : Session) (v : Built) :
    (placed w v).2.outside.store.heap.IsBuilt v (some (placed w v).1) := by
  have made {o : Object} (hv : Object.ofBuilt? v = some o) :
      (w.making o).outside.store.heap.IsBuilt v (some w.outside.store.heap.objects.size) :=
    .made hv Array.getElem?_push_size
  cases v with
  | object r => exact .object r
  | _ => exact made rfl

end Dispatch

/-! ### Calls of callables -/

namespace Session

open Dispatch (Ending Ends accepted outcome entered found? placed)

variable {w : Session} {l : Lambda} {k : Nat} {args : List (Option Ref)}

/-- An answer that is missing is the error that is pending. -/
theorem run_receive_none {e : Fault} (h : w.pending k = some e) :
    ∃ w', Undisturbed w w' ∧ w'.stats = w.stats ∧
      (Script.receive k none : Script.Eval Bench _).run.run w = (.ok (.error e), w') := by
  have hfault : (ReaderT.run (Store.takeFault k) w.descriptors w.outside).1 = some e := by
    change ((w.outside.store.machines[k]?).getD default).pending = some e
    unfold pending at h
    cases hk : w.outside.store.machines[k]? with
    | none =>
      rw [hk] at h
      cases h
    | some m =>
      rw [hk] at h
      exact h
  have htaken := Undisturbed.modifying w k (f := fun s => { s with pending := none })
    fun _ => ⟨rfl, rfl, rfl⟩
  refine ⟨_, htaken, rfl, ?_⟩
  unfold Script.receive
  rw [Script.Eval.run_quiet_bind, hfault]
  rfl

/-- A call that leaves things alone while the closure runs does so to its end, and it is counted at
its beginning. -/
theorem Undisturbed.final {host : Program .value → Exec Session HostValue} {self tuple : Option Ref}
    {e : Ending} (he : Ends host k self tuple w e) (hleft : Undisturbed w e.left) :
    Undisturbed w e.final ∧ e.final.stats.calls = e.left.stats.calls := by
  cases he <;> dsimp only at hleft ⊢
  case missed => exact ⟨(hleft.trans (.counted _ _)).trans (.making _ _), rfl⟩
  case refused => exact ⟨(hleft.trans (.raising _ k _)).trans (.counted _ _), rfl⟩
  case panicked => exact ⟨(hleft.trans (.counted _ _)).trans (.raising _ k _), rfl⟩
  case unfit => exact ⟨(hleft.trans (.raising _ k _)).trans (.counted _ _), rfl⟩
  case answered v _ _ _ _ _ => exact ⟨hleft.trans (.placed _ v), by cases v <;> rfl⟩

/-- An interpreter is bound in which a call of the callable of a lambda is served with the lambda's
closure. -/
structure Serves (w : Session) (l : Lambda) (k : Nat) : Prop where
  tidy : Tidy w
  unreleased : ∃ i, Unreleased w.lambdas i l
  machine : ∃ j, l.machine = .scripted j
  bound : w.bound = some (.scripted k)
  lt : k < w.outside.store.machines.size

namespace Serves

theorem reaches {w' : Session} (h : Serves w l k) (hr : Reaches False w w')
    (hl : w'.lambdas = w.lambdas) : Serves w' l k where
  tidy := h.tidy.reaches hr
  unreleased := by
    rw [hl]
    exact h.unreleased
  machine := h.machine
  bound := bound_of_reaches hr h.bound
  lt := (grows_of_reaches hr).lt_machines h.lt

theorem undisturbed {w' : Session} (h : Serves w l k) (hw : Undisturbed w w') : Serves w' l k :=
  h.reaches hw.reaches hw.lambdas

/-- A call of the callable, while whose closure runs things are left alone, gives the answer of the
router or the error that the router has raised. -/
theorem call_of_ends (h : Serves w l k) (n : Nat) (args : List (Option Ref)) :
    ∃ self : Ref, found? (w.making (.tuple args)) (some self) = some (l.shape, l.call) ∧
      ∀ e : Ending, Ends (Recursion.level n).host k (some self)
          (some w.outside.store.heap.objects.size) (w.making (.tuple args)) e →
        Undisturbed (w.making (.tuple args)) e.left →
        ∃ w', Undisturbed w w' ∧ w'.stats.calls = e.left.stats.calls ∧
          (e.raised = none → w' = e.final) ∧
          ((Recursion.level (n + 1)).call k (some l.callable) args).run.run w =
            (.ok (match e.raised with | none => .ok e.answer | some fault => .error fault),
              w') := by
  obtain ⟨i, hu⟩ := h.unreleased
  obtain ⟨j, hm⟩ := h.machine
  obtain ⟨self, hcall, hfound⟩ := h.tidy.run_call hu.1 hm n k args
  rw [h.tidy.maps.get?_eq hu] at hfound
  refine ⟨self, hfound, fun e he hleft => ?_⟩
  obtain ⟨hfinal, hcalls⟩ := Undisturbed.final he hleft
  have hb : (w.making (.tuple args)).bound = some (.scripted k) := h.bound
  have hbound : e.left.bound = some (.scripted k) := bound_of_reaches hleft.reaches hb
  have hmachine : k < e.left.outside.store.machines.size := hleft.grows.lt_machines h.lt
  have hundisturbed := (Undisturbed.making w (.tuple args)).trans hfinal
  have henter : ((Recursion.level n).enter (some self)
      (some w.outside.store.heap.objects.size)).run (w.making (.tuple args)) =
        (.ok e.answer, e.final) := he.run_eq hb hbound
  have hpending := he.pending_final hmachine
  have hanswer := he.answer_eq_none_iff
  rw [hcall, Script.Eval.run_ofExec_bind, henter]
  cases hraised : e.raised with
  | none =>
    cases ha : e.answer with
    | none =>
      rw [hraised] at hanswer
      cases hanswer.mp ha
    | some r => exact ⟨e.final, hundisturbed, hcalls, fun _ => rfl, rfl⟩
  | some fault =>
    rw [hraised] at hpending hanswer
    obtain ⟨w', hw', hstats, hreceive⟩ := run_receive_none hpending
    rw [hanswer.mpr rfl]
    exact ⟨w', hundisturbed.trans hw', by rw [hstats, hcalls], nofun, hreceive⟩

/-- A call with objects that the closure cannot be given fails with the error that they are refused
with. -/
theorem call_refused (h : Serves w l k) {e : Fault}
    (he : accepted w args l.shape.input = .error e) (n : Nat) :
    ∃ w', Undisturbed w w' ∧ w'.stats.calls = w.stats.calls + 1 ∧
      ((Recursion.level (n + 1)).call k (some l.callable) args).run.run w =
        (.ok (.error e), w') := by
  obtain ⟨self, hfound, hcall⟩ := h.call_of_ends n args
  have hentered : Undisturbed (w.making (.tuple args)) (entered (w.making (.tuple args))) :=
    .counted _ _
  obtain ⟨w', hw', hcalls, -, hrun⟩ := hcall _ (.refused hfound he) hentered
  exact ⟨w', hw', hcalls, hrun⟩

end Serves

/-- On some objects a lambda does what a function does. -/
def Runs (w : Session) (l : Lambda) (f : Arguments → Except Payload HostValue)
    (args : List (Option Ref)) : Prop :=
  ∀ arguments, accepted w args l.shape.input = .ok arguments →
    l.call arguments = Closure.ofFunction f arguments

/-- What comes of a call of a callable that does what a function does. -/
theorem Serves.call_function (h : Serves w l k) {f : Arguments → Except Payload HostValue}
    (hf : Runs w l f args) (n : Nat) :
    ∃ w', Undisturbed w w' ∧ w'.stats.calls = w.stats.calls + 1 ∧
      match outcome w l.shape f args with
      | .ok v => ∃ r : Ref, w'.outside.store.heap.IsBuilt v (some r) ∧
          ((Recursion.level (n + 2)).call k (some l.callable) args).run.run w =
            (.ok (.ok (some r)), w')
      | .error e =>
          ((Recursion.level (n + 2)).call k (some l.callable) args).run.run w =
            (.ok (.error e), w') := by
  obtain ⟨self, hfound, hcall⟩ := h.call_of_ends (n + 1) args
  have hentered : Undisturbed (w.making (.tuple args)) (entered (w.making (.tuple args))) :=
    .counted _ _
  unfold outcome
  cases ha : accepted w args l.shape.input with
  | error e => exact h.call_refused ha (n + 1)
  | ok arguments =>
    dsimp only
    have hprogram := hf arguments ha
    cases hfa : f arguments with
    | error payload =>
      rw [Closure.ofFunction_of_error hfa] at hprogram
      have hr : ((Recursion.level (n + 1)).host (l.call arguments)).run
          (entered (w.making (.tuple args))) =
            (.error (.panic payload), entered (w.making (.tuple args))) := by
        rw [hprogram]
        rfl
      obtain ⟨w', hw', hcalls, -, hrun⟩ := hcall _ (.panicked hfound ha hr) hentered
      exact ⟨w', hw', hcalls, hrun⟩
    | ok v =>
      rw [Closure.ofFunction_of_ok hfa] at hprogram
      have hr : ((Recursion.level (n + 1)).host (l.call arguments)).run
          (entered (w.making (.tuple args))) = (.ok v, entered (w.making (.tuple args))) := by
        rw [hprogram]
        rfl
      dsimp only
      cases hv : Marshal.prepare v l.shape.output with
      | error e =>
        obtain ⟨w', hw', hcalls, -, hrun⟩ := hcall _ (.unfit hfound ha hr hv) hentered
        exact ⟨w', hw', hcalls, hrun⟩
      | ok built =>
        obtain ⟨w', hw', hcalls, hfinal, hrun⟩ := hcall _ (.answered hfound ha hr hv) hentered
        obtain rfl := hfinal rfl
        exact ⟨_, hw', hcalls, _, Dispatch.isBuilt_placed _ built, hrun⟩

end Session

end ClosureBridge
