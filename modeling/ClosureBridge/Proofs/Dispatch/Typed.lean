import ClosureBridge.Proofs.Interpreter.References
import ClosureBridge.Proofs.Lambda.Composition

/-!
# Calls of typed closures

A typed closure is exposed under the shape of its type and kept as a closure that receives arguments
of any kind; a call with arguments of another kind would end in a panic of its own. The router never
makes such a call: it unpacks by the shape that is registered with the closure, and the two stay
together however identifiers are given back and taken again. So a call of a typed closure is served
as if there were no arguments and no results of other kinds.

## Main definitions

* `Arguments.ofCarrier`: what a typed closure receives, as arguments.
* `Marshal.parseTyped`, `Marshal.buildTyped`: arguments in and results out for a typed closure.
* `Dispatch.serveTyped`: a call served with a typed closure.
* `Dispatch.Fares`: what comes of a call that is served with a typed closure.

## Main statements

* `Dispatch.serve_erase`: over any interpreter, a typed closure is served as such.
* `Session.follows_of_reaches`: a lambda keeps its shape and its closure for good.
* `Session.typed_served_as_typed`: what becomes of typed closures in reachable states.
-/

namespace ClosureBridge

open Script (Fault)

/-! ### Arguments and results of a kind -/

/-- What a typed closure receives, as arguments. -/
def Arguments.ofCarrier : (k : InputKind) → k.Carrier → Arguments
  | .integer, n => integer n
  | .boolean, b => boolean b
  | .float, v => float v
  | .text, s => text s
  | .object, a => object a
  | .objectPair, (a, b) => pair a b
  | .objectTriple, (a, b, c) => triple a b c

/-- What the parts of a tuple are for a typed closure. -/
def InputKind.ofUnpacked? : (k : InputKind) → Unpacked → Option k.Carrier
  | integer, .long n => some n
  | boolean, .long n => some (n != 0)
  | float, .double v => some v
  | text, .text s => some s
  | object, .objects [a] => some a
  | objectPair, .objects [a, b] => some (a, b)
  | objectTriple, .objects [a, b, c] => some (a, b, c)
  | _, _ => none

namespace Arguments

@[simp] theorem extract?_ofCarrier (k : InputKind) (x : k.Carrier) :
    (ofCarrier k x).extract? k = some x := by
  cases k <;> rfl

@[simp] theorem kind_ofCarrier (k : InputKind) (x : k.Carrier) : (ofCarrier k x).kind = k := by
  cases k <;> rfl

end Arguments

/-- The two tables of what the parts of a tuple are agree. -/
theorem Marshal.arrange_eq (k : InputKind) (parts : Unpacked) :
    arrange k parts = (k.ofUnpacked? parts).map (Arguments.ofCarrier k) := by
  fun_cases arrange k parts with
  | case8 => simp_all [InputKind.ofUnpacked?]
  | _ => rfl

namespace Marshal

variable {ι : Type}

/-- Unpack an argument tuple for a typed closure. -/
def parseTyped (I : Interpreter ι) (args : Option Ref) (k : InputKind) :
    Quiet ι (Except ArgumentError k.Carrier) := do
  match ← I.parseTuple args k.format with
  | none => return .error (.mismatch k)
  | some parts =>
    match k.ofUnpacked? parts with
    | some x => return .ok x
    | none =>
      raise I (.mismatch k)
      return .error (.mismatch k)

/-- Build the object for a result of a typed closure. Only a text with a NUL is in the way. -/
def buildTyped (I : Interpreter ι) (k : OutputKind) (y : k.Carrier) : Quiet ι (Option Ref) :=
  if (HostValue.ofCarrier k y).crosses then I.buildValue (HostValue.ofCarrier k y).built
  else do
    raise I .interiorNul
    return none

/-- What is unpacked by a kind is what a typed closure of that kind receives. -/
theorem parseIn_eq (I : Interpreter ι) (args : Option Ref) (k : InputKind) :
    parseIn I args k = Except.map (Arguments.ofCarrier k) <$> parseTyped I args k := by
  unfold parseIn parseTyped
  rw [map_bind]
  refine congrArg _ (funext fun parts => ?_)
  cases parts with
  | none => simp [Except.map]
  | some parts =>
    dsimp only
    rw [arrange_eq]
    cases k.ofUnpacked? parts <;> simp [Except.map]

end Marshal

namespace HostValue

theorem coerce_ofCarrier (k : OutputKind) (y : k.Carrier) :
    (ofCarrier k y).coerce k = some (ofCarrier k y) := by
  simpa using (ofCarrier k y).coerce_kind

/-- A value of the kind of a slot is in the way only if it is a text with a NUL. -/
theorem prepare_ofCarrier (k : OutputKind) (y : k.Carrier) :
    Marshal.prepare (ofCarrier k y) k =
      if (ofCarrier k y).crosses then .ok (ofCarrier k y).built else .error .interiorNul := by
  rw [Marshal.prepare, coerce_ofCarrier]
  exact Marshal.toBuilt_eq _

end HostValue

theorem Marshal.buildOut_ofCarrier {ι : Type} (I : Interpreter ι) (k : OutputKind)
    (y : k.Carrier) : buildOut I (.ofCarrier k y) k = buildTyped I k y := by
  rw [buildOut, buildTyped, HostValue.prepare_ofCarrier]
  cases (HostValue.ofCarrier k y).crosses <;> rfl

/-! ### Serving a call -/

namespace Dispatch

/-- Serve a call with a typed closure. -/
def serveTyped (I : Interpreter Bench.Outside) (r : Recursion) (args : Option Ref) (s : Shape)
    (f : s.input.Carrier → Program (.typed s.output)) : Exec Session (Option Ref) := do
  let .ok x ← (Marshal.parseTyped I args s.input).run | argumentError
  let y ← Run.program r (f x)
  match ← (Marshal.buildTyped I s.output y).run with
  | some out => return some out
  | none => argumentError

variable {s : Shape} {f : s.input.Carrier → Program (.typed s.output)}

/-- A typed closure gets what it receives as arguments, and its result is the value. -/
theorem program_erase_bind {α : Type} (r : Recursion) (x : s.input.Carrier)
    (g : HostValue → Exec Session α) :
    Run.program r (Closure.erase s f (.ofCarrier s.input x)) >>= g =
      Run.program r (f x) >>= fun y => g (.ofCarrier s.output y) := by
  rw [Closure.erase_of_extract? f (Arguments.extract?_ofCarrier s.input x), Run.program_bind]
  exact bind_assoc _ _ _

/-- Over any interpreter, a call that is served with a typed closure by the shape of its type is
served as a call of a typed closure. -/
theorem serve_erase (I : Interpreter Bench.Outside) (r : Recursion) (args : Option Ref) :
    serve I (fun p => Run.program r p) args s (Closure.erase s f) = serveTyped I r args s f := by
  have hrun {α β : Type} (g : α → β) (q : Quiet Bench.Outside α) :
      (Quiet.run (g <$> q) : Exec Session β) = g <$> Quiet.run q := rfl
  unfold serve serveTyped
  rw [Marshal.parseIn_eq, hrun, bind_map_left]
  refine congrArg _ (funext fun arguments => ?_)
  cases arguments with
  | error e => rfl
  | ok x =>
    change Run.program r (Closure.erase s f (.ofCarrier s.input x)) >>= finish I s.output = _
    rw [program_erase_bind]
    refine congrArg _ (funext fun (y : s.output.Carrier) => ?_)
    exact congrArg (fun built : Quiet Bench.Outside (Option Ref) => do
      match ← built.run with
      | some out => return some out
      | none => argumentError) (Marshal.buildOut_ofCarrier I s.output y)

/-- What two computations do at entry decides what they do under the care of the router. -/
theorem run_guarded_congr {rc : Script.Caller Bench} {body body' : Exec Session (Option Ref)}
    {w : Session} (h : body.run (entered w) = body'.run (entered w)) :
    (guarded (Bench.machine rc) body).run w = (guarded (Bench.machine rc) body').run w := by
  rw [run_guarded, run_guarded, h]

/-- What comes of a call that is served with a typed closure, by what the closure does with what it
receives. -/
inductive Fares (n : Nat) (s : Shape) (f : s.input.Carrier → Program (.typed s.output))
    (args : Option Ref) (w : Session) (e : Ending) : Prop where
  /-- The closure is not called. -/
  | refused {fault : Fault} (ha : unpacked w args s.input = .error fault)
    (hleft : e.left = entered w) (hraised : e.raised = some fault)
  /-- The closure itself panics. -/
  | panicked {x : s.input.Carrier} {payload : Payload}
    (ha : unpacked w args s.input = .ok (.ofCarrier s.input x))
    (hrun : (Run.program (.level n) (f x)).run (entered w) = (.error (.panic payload), e.left))
    (hraised : e.raised = some (panicFault payload))
  /-- The result is a text with a NUL in it. -/
  | unfit {x : s.input.Carrier} {y : s.output.Carrier} {text : String}
    (ha : unpacked w args s.input = .ok (.ofCarrier s.input x))
    (hrun : (Run.program (.level n) (f x)).run (entered w) = (.ok y, e.left))
    (hy : HostValue.ofCarrier s.output y = .text text) (hnul : '\x00' ∈ text.toList)
    (hraised : e.raised = some (.runtime ArgumentError.interiorNul.message))
  /-- The answer is the object that the result is built into. -/
  | answered {x : s.input.Carrier} {y : s.output.Carrier}
    (ha : unpacked w args s.input = .ok (.ofCarrier s.input x))
    (hrun : (Run.program (.level n) (f x)).run (entered w) = (.ok y, e.left))
    (hcrosses : (HostValue.ofCarrier s.output y).crosses = true) (hraised : e.raised = none)
    (hanswer : e.answer = some (placed e.left (HostValue.ofCarrier s.output y).built).1)
    (hfinal : e.final = (placed e.left (HostValue.ofCarrier s.output y).built).2)

variable {w : Session} {args : Option Ref}

/-- What is unpacked by a kind is what a typed closure of that kind receives. -/
theorem eq_ofCarrier_of_unpacked {kind : InputKind} {arguments : Arguments}
    (h : unpacked w args kind = .ok arguments) : ∃ x, arguments = .ofCarrier kind x := by
  unfold unpacked at h
  split at h
  · cases h
  · next parts _ =>
    rw [Marshal.arrange_eq] at h
    cases hx : kind.ofUnpacked? parts with
    | none => rw [hx] at h; cases h
    | some x => rw [hx] at h; cases h; exact ⟨x, rfl⟩

/-- A typed closure ends as its program does, with a value of its kind. -/
theorem run_of_run_erase {r : Recursion} {x : s.input.Carrier} {out : Except Stop HostValue}
    {left : Session}
    (h : (Run.program r (Closure.erase s f (.ofCarrier s.input x))).run w = (out, left)) :
    match out with
    | .ok v => ∃ y, v = .ofCarrier s.output y ∧ (Run.program r (f x)).run w = (.ok y, left)
    | .error stop => (Run.program r (f x)).run w = (.error stop, left) := by
  rw [Closure.erase_of_extract? f (Arguments.extract?_ofCarrier s.input x), Run.program_bind,
    Exec.run_bind] at h
  rcases hr : (Run.program r (f x)).run w with ⟨stop | y, v⟩
  · rw [hr] at h
    cases h
    rfl
  · rw [hr] at h
    cases h
    exact ⟨y, rfl, rfl⟩

/-- A call that is served with a typed closure fares in one of these ways. -/
theorem Ends.fares {n k : Nat} {self : Option Ref} {e : Ending}
    (h : Ends (Recursion.level (n + 1)).host k self args w e)
    (hf : found? w self = some (s, Closure.erase s f)) : Fares n s f args w e := by
  -- What was found when the call ended is the typed closure.
  have hserved {shape : Shape} {call : Closure} (h : found? w self = some (shape, call)) :
      s = shape ∧ Closure.erase s f = call := by simpa using hf.symm.trans h
  cases h with
  | missed h => cases hf.symm.trans h
  | refused h ha =>
    obtain ⟨rfl, rfl⟩ := hserved h
    exact .refused ha rfl rfl
  | panicked h ha hr =>
    obtain ⟨rfl, rfl⟩ := hserved h
    obtain ⟨x, rfl⟩ := eq_ofCarrier_of_unpacked ha
    exact .panicked ha (run_of_run_erase (r := .level n) hr) rfl
  | unfit h ha hr hv =>
    obtain ⟨rfl, rfl⟩ := hserved h
    obtain ⟨x, rfl⟩ := eq_ofCarrier_of_unpacked ha
    obtain ⟨y, rfl, hy⟩ := run_of_run_erase (r := .level n) hr
    obtain ⟨hnone, -⟩ | ⟨text, htext, hnul, rfl⟩ := Marshal.prepare_eq_error_iff.mp hv
    · rw [HostValue.coerce_ofCarrier] at hnone
      cases hnone
    · rw [HostValue.coerce_ofCarrier] at htext
      exact .unfit ha hy (Option.some.inj htext) hnul rfl
  | answered h ha hr hv =>
    obtain ⟨rfl, rfl⟩ := hserved h
    obtain ⟨x, rfl⟩ := eq_ofCarrier_of_unpacked ha
    obtain ⟨y, rfl, hy⟩ := run_of_run_erase (r := .level n) hr
    obtain ⟨u, hu, hcrosses, rfl⟩ := Marshal.prepare_eq_ok_iff.mp hv
    rw [HostValue.coerce_ofCarrier] at hu
    obtain rfl := Option.some.inj hu
    exact .answered ha hy hcrosses rfl rfl rfl

/-- In a scripted interpreter a call for which a typed closure is found fares in one of these ways,
or exhausts the budget. -/
theorem fares_or_exhausts {k n : Nat} {self : Option Ref} (hb : w.bound = some (.scripted k))
    (hf : found? w self = some (s, Closure.erase s f)) (args : Option Ref) :
    (∃ e, Ends (Recursion.level (n + 1)).host k self args w e ∧ Fares n s f args w e ∧
      ((Recursion.level (n + 1)).enter self args).run w = (.ok e.answer, e.final)) ∨
    ∃ x left, unpacked w args s.input = .ok (.ofCarrier s.input x) ∧
      (Run.program (.level n) (f x)).run (entered w) = (.error .exhausted, left) ∧
      ((Recursion.level (n + 1)).enter self args).run w = (.error .exhausted, left) := by
  rcases ends_or_exhausts (Recursion.level (n + 1)).host k self args w with
    ⟨e, he⟩ | ⟨left, hleft⟩
  · exact .inl ⟨e, he, he.fares hf, he.run_eq hb (Session.bound_of_reaches he.reaches hb)⟩
  · refine .inr ?_
    obtain ⟨shape, call, arguments, hf', ha, hr⟩ := id hleft
    obtain ⟨rfl, rfl⟩ : s = shape ∧ Closure.erase s f = call := by simpa using hf.symm.trans hf'
    obtain ⟨x, rfl⟩ := eq_ofCarrier_of_unpacked ha
    exact ⟨x, left, ha, run_of_run_erase (r := .level n) hr, hleft.run_eq hb⟩

end Dispatch

/-! ### Exposing a typed closure -/

namespace Session

variable {w v : Session}

/-- Changes release lambdas and add new ones. -/
theorem follows_of_reaches {direct : Prop} (h : Reaches direct w v) :
    Lambda.Follows w.lambdas v.lambdas := by
  induction h with
  | refl => exact .refl
  | tail _ hc ih =>
    cases hc with
    | exposed _ _ _ _ _ => exact ih.push _
    | released hl _ _ => exact ih.release hl
    | _ => exact ih

/-- A lambda over a typed closure is one for good. -/
theorem isOver_of_reaches {direct : Prop} (h : Reaches direct w v) {i : Nat} {l : Lambda}
    (hl : w.lambdas[i]? = some l) {s : Shape} {f : s.input.Carrier → Program (.typed s.output)}
    (hs : l.IsOver s f) : ∃ l', v.lambdas[i]? = some l' ∧ l'.IsOver s f := by
  rcases follows_of_reaches h i l hl with hv | hv
  · exact ⟨l, hv, hs⟩
  · exact ⟨_, hv, hs.shape, hs.call⟩

/-- A typed closure that has been exposed is that of the same lambda from then on. -/
theorem Tidy.isOver_of_expose (h : Tidy w) {n : Nat} {how : Exposure} {s : Shape}
    {f : s.input.Carrier → Program (.typed s.output)} {i : Nat} (hf : ∀ x, (f x).Obeys False)
    (hrun : (Perform.expose (.level n) how s (Closure.erase s f)).run w = (.ok (.ok i), v)) :
    Reaches False w v ∧
      ∀ u, Reaches False v u → ∃ l, u.lambdas[i]? = some l ∧ l.IsOver s f := by
  have hkept : Exec.Keeps (Reaches False w) (Perform.expose (.level n) how s _) :=
    (stable_reaches h.sound).exposure how s (Closure.obeys_erase hf)
  have hv := hkept w .refl
  rw [hrun] at hv
  refine ⟨hv, fun u hu => ?_⟩
  obtain ⟨l, hl, hshape, hcall⟩ := (Perform.exposed_expose hrun).exposed
  exact isOver_of_reaches hu hl.1 ⟨hshape, hcall⟩

open Dispatch (found? entered Ends Exhausts Fares serveTyped guarded unpacked)

/-- Over any interpreter, a call for which a typed closure is registered is served as a call of a
typed closure. -/
theorem run_enter_typed {m : MachineId} (hb : w.bound = some m) {n : Nat} {self args : Option Ref}
    {id : String}
    (hid : (ReaderT.run (((Recursion.level (n + 1)).machine m).textOf self) w.descriptors
      w.outside).1 = some id) {s : Shape} {f : s.input.Carrier → Program (.typed s.output)}
    (hcall : w.call? id = some (s, Closure.erase s f)) :
    ((Recursion.level (n + 1)).enter self args).run w =
      (guarded (Recursion.level (n + 1)).machine (do
        let _ ← (((Recursion.level (n + 1)).machine m).textOf self).run
        serveTyped ((Recursion.level (n + 1)).machine m) (.level n) args s f)).run w := by
  have hb' : (entered w).bound = some m := hb
  have hroute : (Dispatch.route (Recursion.level (n + 1)).machine (Recursion.level (n + 1)).host
      self args).run (entered w) = (do
        let _ ← (((Recursion.level (n + 1)).machine m).textOf self).run
        serveTyped ((Recursion.level (n + 1)).machine m) (.level n) args s f).run (entered w) := by
    unfold Dispatch.route
    rw [Exec.run_bind_of_ok (Dispatch.run_current hb')]
    dsimp only
    rw [Exec.run_bind_of_ok (Quiet.run_run _ _), Exec.run_bind_of_ok (Quiet.run_run _ _)]
    generalize hread : ReaderT.run (((Recursion.level (n + 1)).machine m).textOf self)
      (entered w).descriptors (entered w).outside = read
    have hid' : read.1 = some id := by rw [← hread]; exact hid
    have hcall' : World.call? { entered w with outside := read.2 } id =
      some (s, Closure.erase s f) := hcall
    rw [hid']
    dsimp only
    rw [Exec.run_get_bind, hcall', ← Dispatch.serve_erase]
    rfl
  exact Dispatch.run_guarded_congr hroute

/-- **Typed closures are only called with what they receive.** A typed closure that has been exposed
is that of the same lambda in every state reached from then on, through lambdas only. The callable
of any lambda enters the router with an object under which whatever is registered under the lambda's
identifier is found; and what is registered under an identifier, whoever had it before, is the shape
and the closure of one unreleased lambda. When that lambda is over a typed closure, a call with any
tuple is served, over any interpreter, as a call of a typed closure, in which there are no arguments
and no results of other kinds. In a scripted interpreter it fails only where the tuple is refused,
where the closure itself panics or nests too deep, and where its result is a text with a NUL. -/
theorem typed_served_as_typed (hw : Reachable w) :
    (∀ (n : Nat) (how : Exposure) (s : Shape) (f : s.input.Carrier → Program (.typed s.output))
      (i : Nat) (v : Session), (∀ x, (f x).Obeys False) →
      (Perform.expose (.level n) how s (Closure.erase s f)).run w = (.ok (.ok i), v) →
      ∀ u, Reaches False v u → Reachable u ∧ ∃ l, u.lambdas[i]? = some l ∧ l.IsOver s f) ∧
    (∀ (i j : Nat) (l : Lambda), w.lambdas[i]? = some l → l.machine = .scripted j →
      ∀ (n m : Nat) (args : List (Option Ref)), ∃ self : Ref,
        ((Recursion.level (n + 1)).call m (some l.callable) args).run.run w =
          (Script.Eval.ofExec ((Recursion.level n).enter (some self)
            (some w.outside.store.heap.objects.size)) >>=
              Script.receive m).run.run (w.making (.tuple args)) ∧
        Reachable (w.making (.tuple args)) ∧
        found? (w.making (.tuple args)) (some self) = w.registry.get? l.id) ∧
    ∀ (id : String) (shape : Shape) (call : Closure), w.call? id = some (shape, call) →
      ∃ i l, Unreleased w.lambdas i l ∧ l.id = ⟨id⟩ ∧ l.shape = shape ∧ l.call = call ∧
        ∀ (s : Shape) (f : s.input.Carrier → Program (.typed s.output)), l.IsOver s f →
        ∀ (n : Nat) (self args : Option Ref),
          (∀ m, w.bound = some m →
            (ReaderT.run (((Recursion.level (n + 1)).machine m).textOf self) w.descriptors
              w.outside).1 = some id →
            ((Recursion.level (n + 1)).enter self args).run w =
              (guarded (Recursion.level (n + 1)).machine (do
                let _ ← (((Recursion.level (n + 1)).machine m).textOf self).run
                serveTyped ((Recursion.level (n + 1)).machine m) (.level n) args s f)).run w) ∧
          ∀ k, w.bound = some (.scripted k) → found? w self = some (shape, call) →
            (∃ e, Ends (Recursion.level (n + 1)).host k self args w e ∧ Fares n s f args w e ∧
              ((Recursion.level (n + 1)).enter self args).run w = (.ok e.answer, e.final)) ∨
            ∃ x left, unpacked w args s.input = .ok (.ofCarrier s.input x) ∧
              (Run.program (.level n) (f x)).run (entered w) = (.error .exhausted, left) ∧
              ((Recursion.level (n + 1)).enter self args).run w = (.error .exhausted, left) := by
  refine ⟨fun n how s f i v hf hrun u hu => ?_, fun i j l hl hm n m args => ?_,
    fun id shape call hget => ?_⟩
  · obtain ⟨hv, hlater⟩ := hw.tidy.isOver_of_expose hf hrun
    exact ⟨hw.reaches (hv.trans hu), hlater u hu⟩
  · obtain ⟨self, hcall, hfound⟩ := hw.tidy.run_call hl hm n m args
    have hgrows := Script.Store.Grows.alloc w.outside.store (.tuple args)
    exact ⟨self, hcall, hw.reaches (.single (.outside hgrows)), hfound⟩
  · obtain ⟨i, l, hl, hid, rfl, rfl⟩ := hw.tidy.maps.get?_iff.mp hget
    refine ⟨i, l, hl, hid, rfl, rfl, fun s f hs n self args => ?_⟩
    rw [hs.shape, hs.call] at hget ⊢
    exact ⟨fun m hb ht => run_enter_typed hb ht hget,
      fun k hb hf => Dispatch.fares_or_exhausts hb hf args⟩

/-- A typed closure whose results are texts with a NUL. -/
def broken (_ : Int64) : Program (.typed .text) :=
  Closure.give "a\x00b"

/-- An identifier is given back by a lambda that receives objects and taken again by one that
receives integers. -/
def renewed : List Step := [
  .runtime (.make "main" true), .runtime (.install "main"),
  .expose "first" (.withId "x") ⟨.object, .object⟩ (Closure.sample ⟨.object, .object⟩),
  .handle (.release "first"),
  .expose "second" (.withId "x") ⟨.integer, .text⟩ (Closure.erase ⟨.integer, .text⟩ broken),
  .context "main" (.open .isolated "main" none none),
  .context "main" (.setGlobal "x" (.integer 9))]

theorem obeys_renewed : ∀ s ∈ renewed, s.Obeys False := by
  intro s hs
  simp only [renewed, List.mem_cons, List.not_mem_nil, or_false] at hs
  have hfirst (a : Ref) : (Closure.sampleBody ⟨.object, .object⟩ a).Obeys False := trivial
  have hsecond (n : Int64) : (broken n).Obeys False := trivial
  rcases hs with rfl | rfl | rfl | rfl | rfl | rfl | rfl
  · exact trivial
  · exact trivial
  · exact Closure.obeys_erase hfirst
  · exact trivial
  · exact Closure.obeys_erase hsecond
  · exact trivial
  · exact trivial

/-- The callable of the lambda that gave the identifier back is called with an integer. The closure
that has the identifier now receives it as such, and its result is refused for the NUL in it. -/
theorem typed_served_as_typed_renewed :
    ∃ (w : Session) (first : Lambda) (self : Ref) (e : Dispatch.Ending),
      w = (taking 1 renewed Trial.fresh).making (.tuple [some 7]) ∧ Reachable w ∧
      w.lambdas[0]? = some first ∧ first.descriptor = none ∧
      w.outside.store.heap.objects[7]? = some (.integer 9) ∧
      found? w (some self) = w.registry.get? first.id ∧
      Fares 0 ⟨.integer, .text⟩ broken (some 8) w e ∧
      e.raised = some (.runtime "Text result contains an interior NUL byte") ∧
      ((Recursion.level 1).enter (some self) (some 8)).run w = (.ok none, e.final) := by
  have hw : Reachable (taking 1 renewed Trial.fresh) := .taking 1 obeys_renewed
  obtain ⟨-, hcallable, -⟩ := typed_served_as_typed hw
  obtain ⟨self, -, hreach, hfound⟩ := hcallable 0 0 _ rfl rfl 1 0 [some 7]
  obtain ⟨-, -, hserved⟩ := typed_served_as_typed hreach
  obtain ⟨i, l, -, -, hshape, hcall, hover⟩ := hserved "x" ⟨.integer, .text⟩
    (Closure.erase ⟨.integer, .text⟩ broken) rfl
  obtain ⟨-, hscripted⟩ := hover ⟨.integer, .text⟩ broken ⟨hshape, hcall⟩ 0 (some self) (some 8)
  obtain ⟨e, he, hfares, hrun⟩ | ⟨x, left, ha, hleft, -⟩ := hscripted 0 rfl hfound
  · have hraised : e.raised = some (.runtime "Text result contains an interior NUL byte") := by
      cases id hfares with
      | refused ha => cases ha
      | panicked _ hrun => cases hrun
      | unfit _ _ _ _ hraised => exact hraised
      | answered _ hrun hcrosses =>
        cases Except.ok.inj (congrArg Prod.fst hrun)
        cases hcrosses
    have hanswer : e.answer = none := he.answer_eq_none_iff.mpr (by rw [hraised]; rfl)
    rw [hanswer] at hrun
    exact ⟨_, _, self, e, rfl, hreach, rfl, rfl, rfl, hfound, hfares, hraised, hrun⟩
  · cases hleft

end Session

end ClosureBridge
