import ClosureBridge.Proofs.Lambda.Registered
import ClosureBridge.Proofs.Marshal.RoundTrip

/-!
# One lambda after another

Calling the callable of one lambda on what the callable of another gave is calling the callable of a
lambda over the composition of the two in the host: what goes out as a result comes back in as the
same value.

## Main definitions

* `Lambda.IsOver`: a lambda over a typed closure.
* `Closure.after`: one typed closure after another.
* `Session.Computes`: a program gives a result and leaves alone what is there.
* `Session.Gives`: a call of a callable gives an object that is built from a value.

## Main statements

* `Run.program_bind`: one program after another, run.
* `Session.Serves.call_computes`: what a call of a callable over a typed closure gives.
* `Session.callables_compose`: callables compose as the closures do.
-/

namespace ClosureBridge

open Script (Heap Object)

/-- One program after another, run. -/
theorem Run.program_bind (r : Recursion) {t u : Task} (f : t.Result → Program u) :
    (p : Program t) → Run.program r (p.bind f) = Run.program r p >>= fun v => Run.program r (f v)
  | .panic payload => rfl
  | .done v => by
    rw [Program.bind, Run.program, pure_bind]
  | .build term k => by
    rw [Program.bind, Run.program, Run.program, bind_assoc]
    exact congrArg _ (funext fun a => program_bind r f (k a))
  | .lookup id args k => by
    rw [Program.bind, Run.program, Run.program, bind_assoc]
    refine congrArg _ (funext fun w => ?_)
    cases w.call? id with
    | none => exact program_bind r f (k none)
    | some found =>
      dsimp only
      rw [bind_assoc]
      exact congrArg _ (funext fun a => program_bind r f (k (some a)))
  | .execute name source mode showErrors k => by
    rw [Program.bind, Run.program, Run.program, bind_assoc]
    refine congrArg _ (funext fun c => ?_)
    rw [bind_assoc]
    exact congrArg _ (funext fun a => program_bind r f (k a))
  | .unregister id k => by
    rw [Program.bind, Run.program, Run.program, bind_assoc]
    exact congrArg _ (funext fun b => program_bind r f (k b))
  | .step s k => by
    rw [Program.bind, Run.program, Run.program, bind_assoc]
    exact congrArg _ (funext fun outcome => program_bind r f (k (outcome.map Answer.json)))

namespace Closure

/-- One typed closure, and another that receives its result. -/
def after {a : InputKind} {b c : OutputKind} (g : b.input.Carrier → Program (.typed c))
    (f : a.Carrier → Program (.typed b)) : a.Carrier → Program (.typed c) :=
  fun x => (f x).bind fun y => g (b.received y)

/-- A typed closure whose programs obey does so as a closure. -/
theorem obeys_erase {direct : Prop} {s : Shape} {f : s.input.Carrier → Program (.typed s.output)}
    (hf : ∀ x, (f x).Obeys direct) : (erase s f).Obeys direct := by
  intro args
  unfold erase
  split
  · refine Program.obeys_bind (fun _ => ?_) (hf _)
    exact trivial
  · exact trivial

end Closure

/-- A lambda over a typed closure. -/
structure Lambda.IsOver (l : Lambda) (s : Shape)
    (f : s.input.Carrier → Program (.typed s.output)) : Prop where
  shape : l.shape = s
  call : l.call = Closure.erase s f

namespace Session

open Dispatch (accepted entered placed)

/-- From now on a program gives a result, and what is there is left alone. -/
def Computes (w : Session) (n : Nat) {t : Task} (p : Program t) (v : t.Result) : Prop :=
  ∀ u, Undisturbed w u → ∃ u', Undisturbed u u' ∧ (Run.program (.level n) p).run u = (.ok v, u')

namespace Computes

variable {u w : Session} {n : Nat} {t t' : Task}

theorem done (v : t.Result) : Computes w n (.done v) v :=
  fun u _ => ⟨u, .refl u, rfl⟩

theorem later {p : Program t} {v : t.Result} (h : Computes w n p v) (hu : Undisturbed w u) :
    Computes u n p v :=
  fun u' hu' => h u' (hu.trans hu')

theorem bind {p : Program t} {f : t.Result → Program t'} {v : t.Result} {v' : t'.Result}
    (hp : Computes w n p v) (hf : Computes w n (f v) v') : Computes w n (p.bind f) v' := by
  intro u hu
  obtain ⟨u₁, hu₁, hrun⟩ := hp u hu
  obtain ⟨u₂, hu₂, hrun'⟩ := hf u₁ (hu.trans hu₁)
  refine ⟨u₂, hu₁.trans hu₂, ?_⟩
  rw [Run.program_bind, Exec.run_bind_of_ok hrun, hrun']

/-- The result of a typed closure is that of the closure. -/
theorem erase {s : Shape} {f : s.input.Carrier → Program (.typed s.output)}
    {arguments : Arguments} {x : s.input.Carrier} {y : s.output.Carrier}
    (hx : arguments.extract? s.input = some x) (h : Computes w n (f x) y) :
    Computes w n (Closure.erase s f arguments) (HostValue.ofCarrier s.output y) := by
  rw [Closure.erase_of_extract? f hx]
  exact h.bind (.done _)

end Computes

/-- A call of a callable leaves alone what is there and gives an object that is built from a
value. -/
structure Gives (w : Session) (n k : Nat) (l : Lambda) (args : List (Option Ref)) (v : HostValue)
    (o : Ref) (w' : Session) : Prop where
  undisturbed : Undisturbed w w'
  run_eq : ((Recursion.level n).call k (some l.callable) args).run.run w =
    (.ok (.ok (some o)), w')
  isBuilt : w'.outside.store.heap.IsBuilt v.built (some o)

/-- An object that is built from the result of a typed closure is accepted as the result by one that
receives values of its kind. -/
theorem accepted_of_isBuilt {w : Session} {b : OutputKind} {y : b.Carrier} {o : Ref}
    (h : w.outside.store.heap.IsBuilt (HostValue.ofCarrier b y).built (some o)) :
    accepted w [some o] b.input = .ok (HostValue.ofCarrier b y).arguments := by
  have hunpacked := Dispatch.unpacked_of_isBuilt
    (h.grows (Undisturbed.making w (.tuple [some o])).grows) Array.getElem?_push_size
  rw [HostValue.kind_ofCarrier] at hunpacked
  exact hunpacked

namespace Serves

variable {w : Session} {l : Lambda} {k : Nat} {args : List (Option Ref)} {s : Shape}
  {f : s.input.Carrier → Program (.typed s.output)}

/-- A call of the callable of a lambda over a typed closure gives an object that is built from the
result of the closure. -/
theorem call_computes (h : Serves w l k) (hl : l.IsOver s f) {arguments : Arguments}
    (ha : accepted w args s.input = .ok arguments) {x : s.input.Carrier}
    (hx : arguments.extract? s.input = some x) {n : Nat} {y : s.output.Carrier}
    (hy : Computes w n (f x) y) (hcrosses : (HostValue.ofCarrier s.output y).crosses = true) :
    ∃ o w', Gives w (n + 2) k l args (HostValue.ofCarrier s.output y) o w' := by
  obtain ⟨self, hfound, hcall⟩ := h.call_of_ends (n + 1) args
  rw [hl.shape, hl.call] at hfound
  have hentered : Undisturbed w (entered (w.making (.tuple args))) :=
    (Undisturbed.making w (.tuple args)).trans (.counted _ _)
  obtain ⟨left, hleft, hrun⟩ := (hy.erase hx) _ hentered
  have hprepare := HostValue.prepare_kind hcrosses
  rw [HostValue.kind_ofCarrier] at hprepare
  obtain ⟨w', hw', -, hfinal, hanswer⟩ := hcall _ (.answered hfound ha hrun hprepare)
    ((Undisturbed.counted _ _).trans hleft)
  obtain rfl := hfinal rfl
  exact ⟨_, _, hw', hanswer, Dispatch.isBuilt_placed left _⟩

end Serves

/-- **Callables compose as the closures do.** What is built from a value, in the slot of its own
kind, is an object from which the input kind of the same name unpacks the value, and no error is
pending for it. Hence, where a lambda receives what another one gives and the two closures have
results that are no texts with a NUL, calling one callable on what the other gave builds an object
from the same value as calling, then or later, the callable of a lambda over the composition; and
objects that the first of them is refused are refused by the composition with the same error. -/
theorem callables_compose :
    (∀ (rc : Script.Caller Bench) (k : Nat) (w : Session) (v : HostValue), v.crosses = true →
      (∀ r, v = .object r → r < w.outside.store.heap.objects.size) →
      ∃ (o : Ref) (w' : Session),
        (Marshal.buildOut (Script.interface rc k) v v.kind).run.run w = (.ok (some o), w') ∧
        o < w'.outside.store.heap.objects.size ∧ w'.pending k = w.pending k ∧
        ∀ (u : Session) (t : Ref) (kind : InputKind),
          w'.outside.store.Grows u.outside.store →
          u.outside.store.heap.objects[t]? = some (.tuple [some o]) →
          kind.typeName = v.kind.typeName →
          (Marshal.parseIn (Script.interface rc k) (some t) kind).run.run u =
            (.ok (.ok v.arguments), u)) ∧
    ∀ (w : Session) (k : Nat), Reachable w → w.bound = some (.scripted k) →
      k < w.outside.store.machines.size →
      ∀ first second whole : Lambda,
      (∀ l ∈ [first, second, whole],
        ∃ i j, Unreleased w.lambdas i l ∧ l.machine = .scripted j) →
      ∀ (a : InputKind) (b c : OutputKind) (f : a.Carrier → Program (.typed b))
        (g : b.input.Carrier → Program (.typed c)),
      first.IsOver ⟨a, b⟩ f → second.IsOver ⟨b.input, c⟩ g →
      whole.IsOver ⟨a, c⟩ (Closure.after g f) →
      ∀ args : List (Option Ref), w.outside.store.heap.Live args.head?.join → ∀ n : Nat,
      (∀ (arguments : Arguments) (x : a.Carrier) (y : b.Carrier) (z : c.Carrier),
        accepted w args a = .ok arguments → arguments.extract? a = some x →
        Computes w n (f x) y → (HostValue.ofCarrier b y).crosses = true →
        Computes w n (g (b.received y)) z → (HostValue.ofCarrier c z).crosses = true →
        (∃ o v, Gives w (n + 2) k first args (.ofCarrier b y) o v ∧
          ∃ r v', Gives v (n + 2) k second [some o] (.ofCarrier c z) r v') ∧
        ∀ u, Undisturbed w u →
          ∃ r u', Gives u (n + 2) k whole args (.ofCarrier c z) r u') ∧
      ∀ e, accepted w args a = .error e → ∀ l ∈ [first, whole], ∃ w', Undisturbed w w' ∧
        ((Recursion.level (n + 2)).call k (some l.callable) args).run.run w =
          (.ok (.error e), w') := by
  refine ⟨fun rc k w v hv hlive => Dispatch.buildOut_parseIn hv hlive, ?_⟩
  intro w k hw hb hk first second whole hall a b c f g hfirst hsecond hwhole args hargs n
  have hserves {l : Lambda} (hl : l ∈ [first, second, whole]) : Serves w l k := by
    obtain ⟨i, j, hu, hm⟩ := hall l hl
    exact ⟨hw.tidy, ⟨i, hu⟩, ⟨j, hm⟩, hb, hk⟩
  refine ⟨?_, ?_⟩
  · intro arguments x y z ha hx hy hyc hz hzc
    refine ⟨?_, fun u hu => ?_⟩
    · obtain ⟨o, v, hv⟩ := (hserves (by simp)).call_computes hfirst ha hx hy hyc
      have hserved : Serves v second k := (hserves (by simp)).undisturbed hv.undisturbed
      exact ⟨o, v, hv, hserved.call_computes hsecond (accepted_of_isBuilt hv.isBuilt)
        (HostValue.extract?_arguments b y) (hz.later hv.undisturbed) hzc⟩
    · have hlater : accepted u args a = .ok arguments := by
        rw [Dispatch.accepted_of_grows hargs hu.grows, ha]
      exact ((hserves (by simp)).undisturbed hu).call_computes hwhole hlater hx
        ((hy.bind hz).later hu) hzc
  · intro e he l hl
    obtain ⟨hserved, hshape⟩ : Serves w l k ∧ l.shape.input = a := by
      simp only [List.mem_cons, List.not_mem_nil, or_false] at hl
      rcases hl with rfl | rfl
      · exact ⟨hserves (by simp), by rw [hfirst.shape]⟩
      · exact ⟨hserves (by simp), by rw [hwhole.shape]⟩
    obtain ⟨w', hw', -, hrun⟩ := hserved.call_refused (hshape ▸ he) (n + 1)
    exact ⟨w', hw', hrun⟩

/-- A lambda that tests integers, one that turns truth values into integers, and one that does
both. -/
def testing : List Step := [
  .runtime (.make "main" true), .runtime (.install "main"),
  .expose "first" .fresh ⟨.integer, .boolean⟩ (Closure.sample ⟨.integer, .boolean⟩),
  .expose "second" .fresh ⟨.boolean, .integer⟩ (Closure.sample ⟨.boolean, .integer⟩),
  .expose "whole" .fresh ⟨.integer, .integer⟩ (Closure.erase ⟨.integer, .integer⟩
    (Closure.after (b := .boolean) (Closure.sampleBody ⟨.boolean, .integer⟩)
      (Closure.sampleBody ⟨.integer, .boolean⟩))),
  .context "main" (.open .isolated "main" none none),
  .context "main" (.setGlobal "x" (.integer 9))]

theorem obeys_testing : ∀ s ∈ testing, s.Obeys False := by
  intro s hs
  simp only [testing, List.mem_cons, List.not_mem_nil, or_false] at hs
  have hfirst (n : Int64) : (Closure.sampleBody ⟨.integer, .boolean⟩ n).Obeys False := trivial
  have hsecond (v : Bool) : (Closure.sampleBody ⟨.boolean, .integer⟩ v).Obeys False := trivial
  rcases hs with rfl | rfl | rfl | rfl | rfl | rfl | rfl
  · exact trivial
  · exact trivial
  · exact Closure.obeys_erase hfirst
  · exact Closure.obeys_erase hsecond
  · exact Closure.obeys_erase fun n => Program.obeys_bind (t := .typed .boolean) hsecond (hfirst n)
  · exact trivial
  · exact trivial

/-- Nine is tested and the answer turned into an integer, by one callable after another and by the
callable of both; a dictionary is refused; and a truth value goes there and back. -/
theorem callables_compose_testing :
    ∃ (w : Session) (first second whole : Lambda), w = taking 1 testing Trial.fresh ∧
      w.lambdas[0]? = some first ∧ w.lambdas[1]? = some second ∧ w.lambdas[2]? = some whole ∧
      w.outside.store.heap.objects[9]? = some (.integer 9) ∧
      (∃ o v, Gives w 2 0 first [some 9] (.boolean true) o v ∧
        ∃ r v', Gives v 2 0 second [some o] (.integer 11) r v') ∧
      (∃ r v, Gives w 2 0 whole [some 9] (.integer 11) r v) ∧
      (∃ v, ((Recursion.level 2).call 0 (some whole.callable) [some 1]).run.run w =
        (.ok (.error (.typeError "an integer is required, not dict")), v)) ∧
      ∃ (o : Ref) (v : Session),
        (Marshal.buildOut (Script.interface (Recursion.level 1).call 0) (.boolean true)
          .boolean).run.run w = (.ok (some o), v) ∧
        (Marshal.parseIn (Script.interface (Recursion.level 1).call 0)
          (some v.outside.store.heap.objects.size) .boolean).run.run (v.making (.tuple [some o])) =
            (.ok (.ok (.boolean true)), v.making (.tuple [some o])) := by
  have hw : Reachable (taking 1 testing Trial.fresh) := .taking 1 obeys_testing
  have hsize : (taking 1 testing Trial.fresh).outside.store.heap.objects.size = 10 := rfl
  obtain ⟨hround, hcompose⟩ := callables_compose
  have hserved := hcompose (taking 1 testing Trial.fresh) 0 hw rfl (by decide) _ _ _ (by
    intro l hl
    simp only [List.mem_cons, List.not_mem_nil, or_false] at hl
    rcases hl with rfl | rfl | rfl
    · exact ⟨0, 0, ⟨rfl, rfl⟩, rfl⟩
    · exact ⟨1, 0, ⟨rfl, rfl⟩, rfl⟩
    · exact ⟨2, 0, ⟨rfl, rfl⟩, rfl⟩) .integer .boolean .integer
    (Closure.sampleBody ⟨.integer, .boolean⟩) (Closure.sampleBody ⟨.boolean, .integer⟩)
    ⟨rfl, rfl⟩ ⟨rfl, rfl⟩ ⟨rfl, rfl⟩
  obtain ⟨hchain, hwhole⟩ := (hserved [some 9] (by simp [hsize]) 0).1 (.integer 9)
    (9 : Int64) true (11 : Int64) rfl rfl (.done (t := .typed .boolean) true) rfl
    (.done (t := .typed .integer) (11 : Int64)) rfl
  obtain ⟨v, -, hrefused⟩ := (hserved [some 1] (by simp [hsize]) 0).2
    (.typeError "an integer is required, not dict") rfl _ (.tail _ (.head _))
  obtain ⟨o, v', hbuild, -, -, hparse⟩ := hround (Recursion.level 1).call 0
    (taking 1 testing Trial.fresh) (.boolean true) rfl nofun
  exact ⟨_, _, _, _, rfl, rfl, rfl, rfl, rfl, hchain, hwhole _ (.refl _), ⟨v, hrefused⟩, o, v',
    hbuild, hparse _ _ .boolean (Undisturbed.making v' (.tuple [some o])).grows
      Array.getElem?_push_size rfl⟩

end Session

end ClosureBridge
