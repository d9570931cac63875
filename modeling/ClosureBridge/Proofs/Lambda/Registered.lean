import ClosureBridge.Bench.Trial
import ClosureBridge.Proofs.Lambda.Calling

/-!
# What is registered

Whatever lambdas are exposed, released and dropped, also by closures while they run, the registry is
the map of the lambdas that are not released.

## Main definitions

* `Session.Reachable`: the states that are reached through lambdas from one before the first.
* `Session.taking`: the state after steps.

## Main statements

* `Session.registry_maps_unreleased`: what is registered in a reachable state.
-/

namespace ClosureBridge.Session

/-- A state reached from one before the first lambda by changes that go through lambdas. -/
def Reachable (w : Session) : Prop :=
  ∃ w₀, Fresh w₀ ∧ Reaches False w₀ w

/-- The state after steps, each taken with a number of levels of nesting. -/
def taking (n : Nat) (steps : List Step) (w : Session) : Session :=
  steps.foldl (fun w s => ((Run.step (.level n) s).run w).2) w

variable {w v : Session}

namespace Tidy

theorem reaches_step (h : Tidy w) (n : Nat) {s : Step} (hs : s.Obeys False) :
    Reaches False w ((Run.step (.level n) s).run w).2 := by
  have hP := stable_reaches h.sound
  exact hP.step (hP.level n) s hs w .refl

theorem reaches_program (h : Tidy w) (n : Nat) {t : Task} {p : Program t} (hp : p.Obeys False) :
    Reaches False w ((Run.program (.level n) p).run w).2 := by
  have hP := stable_reaches h.sound
  exact hP.program (hP.level n) p hp w .refl

theorem reaches_call (h : Tidy w) (n m : Nat) (f : Option Ref) (args : List (Option Ref)) :
    Reaches False w (((Recursion.level n).call m f args).run.run w).2 :=
  ((stable_reaches h.sound).level n).call m f args w .refl

theorem reaches_taking (h : Tidy w) (n : Nat) (steps : List Step)
    (hs : ∀ s ∈ steps, s.Obeys False) : Reaches False w (taking n steps w) := by
  induction steps generalizing w with
  | nil => exact .refl
  | cons s rest ih =>
    have hstep := h.reaches_step n (hs s List.mem_cons_self)
    have hrest : ∀ s ∈ rest, s.Obeys False := fun s' hs' => hs s' (List.mem_cons_of_mem s hs')
    exact hstep.trans (ih (h.reaches hstep) hrest)

end Tidy

namespace Reachable

theorem of_fresh (h : Fresh w) : Reachable w :=
  ⟨w, h, .refl⟩

theorem tidy (h : Reachable w) : Tidy w := by
  obtain ⟨w₀, hfresh, hw⟩ := h
  exact hfresh.tidy.reaches hw

theorem reaches (h : Reachable w) (hv : Reaches False w v) : Reachable v := by
  obtain ⟨w₀, hfresh, hw⟩ := h
  exact ⟨w₀, hfresh, hw.trans hv⟩

/-- Steps that go through lambdas are taken from the start of a trial. -/
theorem taking (n : Nat) {steps : List Step} (hs : ∀ s ∈ steps, s.Obeys False) :
    Reachable (taking n steps Trial.fresh) := by
  have hfresh : Fresh Trial.fresh := ⟨rfl, rfl, rfl, rfl⟩
  exact (of_fresh hfresh).reaches (hfresh.tidy.reaches_taking n steps hs)

end Reachable

/-- The registry after a lambda has been released. -/
theorem registry_release (rc : Script.Caller Bench) {n : Nat} {l : Lambda}
    (hl : Unreleased w.lambdas n l) :
    ((Lambda.release (Bench.machine rc) n).run w).2.registry = (w.registry.remove l.id).2 := by
  obtain ⟨d, hd⟩ := Option.isSome_iff_exists.mp hl.2
  rw [Lambda.run_release (Bench.machine rc) hl.1 hd]

/-- Releasing a lambda takes out its own entry and touches no other. -/
theorem Tidy.get?_release (h : Tidy w) (rc : Script.Caller Bench) (n : Nat) :
    (∀ l, Unreleased w.lambdas n l →
        ((Lambda.release (Bench.machine rc) n).run w).2.registry.get? l.id = none) ∧
      ∀ id, (∀ l, Unreleased w.lambdas n l → l.id ≠ id) →
        ((Lambda.release (Bench.machine rc) n).run w).2.registry.get? id =
          w.registry.get? id := by
  constructor
  · intro l hl
    rw [registry_release rc hl, h.sound.coherent.get?_remove, if_pos rfl]
  · intro id hid
    by_cases hn : ∃ l, Unreleased w.lambdas n l
    · obtain ⟨l, hl⟩ := hn
      rw [registry_release rc hl, h.sound.coherent.get?_remove, if_neg (Ne.symm (hid l hl))]
    · rw [Lambda.run_release_of_released (Bench.machine rc) (not_exists.mp hn)]

/-- **The registry is the map of the unreleased lambdas.** Whatever is run from a reachable state,
through lambdas only, ends in a reachable state. In every reachable state the registry sends the
identifiers of the unreleased lambdas, which are distinct, to their own shapes and closures, and
nothing else; a call of the callable of an unreleased lambda is served with its closure; and
releasing a lambda takes out its own entry and touches no other. -/
theorem registry_maps_unreleased (hw : Reachable w) :
    (∀ (n : Nat) (s : Step), s.Obeys False → Reachable ((Run.step (.level n) s).run w).2) ∧
      (∀ (n : Nat) (t : Task) (p : Program t), p.Obeys False →
        Reachable ((Run.program (.level n) p).run w).2) ∧
      (∀ (n m : Nat) (f : Option Ref) (args : List (Option Ref)),
        Reachable (((Recursion.level n).call m f args).run.run w).2) ∧
      (∀ id shape call, w.registry.get? id = some (shape, call) ↔
        ∃ n l, Unreleased w.lambdas n l ∧ l.id = id ∧ l.shape = shape ∧ l.call = call) ∧
      (∀ n n' l l', Unreleased w.lambdas n l → Unreleased w.lambdas n' l' → l.id = l'.id →
        n = n') ∧
      (∀ i j k l, Unreleased w.lambdas i l → l.machine = .scripted j →
        w.bound = some (.scripted k) → ∀ (n m : Nat) (args : List (Option Ref)),
        ((Recursion.level (n + 1)).call m (some l.callable) args).run.run w =
          (Script.Eval.ofExec (Dispatch.guarded (Recursion.level n).machine
            (Dispatch.serve ((Recursion.level n).machine (.scripted k)) (Recursion.level n).host
              (some w.outside.store.heap.objects.size) l.shape l.call)) >>=
                Script.receive m).run.run (w.making (.tuple args))) ∧
      ∀ (rc : Script.Caller Bench) (n : Nat),
        (∀ l, Unreleased w.lambdas n l →
          ((Lambda.release (Bench.machine rc) n).run w).2.registry.get? l.id = none) ∧
        ∀ id, (∀ l, Unreleased w.lambdas n l → l.id ≠ id) →
          ((Lambda.release (Bench.machine rc) n).run w).2.registry.get? id =
            w.registry.get? id := by
  have h := hw.tidy
  refine ⟨fun n s hs => hw.reaches (h.reaches_step n hs),
    fun n t p hp => hw.reaches (h.reaches_program n hp),
    fun n m f args => hw.reaches (h.reaches_call n m f args),
    fun id shape call => h.maps.get?_iff, fun n n' l l' => h.maps.distinct, ?_, h.get?_release⟩
  intro i j k l hl hm hb n m args
  exact h.call_served hl.1 hm hl rfl hb n m args

/-- An identifier is taken, given back by a release and taken again. -/
def reuse : List Step := [
  .runtime (.make "main" true), .runtime (.install "main"),
  .expose "a" (.withId "x") ⟨.object, .object⟩ Closure.echo,
  .handle (.release "a"),
  .expose "b" (.withId "x") ⟨.object, .text⟩ Closure.kindName]

theorem obeys_reuse : ∀ s ∈ reuse, s.Obeys False := by
  intro s hs
  simp only [reuse, List.mem_cons, List.not_mem_nil, or_false] at hs
  rcases hs with rfl | rfl | rfl | rfl | rfl
  · exact trivial
  · exact trivial
  · exact fun _ => trivial
  · exact trivial
  · exact fun _ => trivial

/-- An identifier that was given back and taken again stands for the new lambda: a call of its
callable is served with the new closure, which tells the kind of its argument. -/
theorem registry_maps_unreleased_reuse :
    Reachable (taking 1 reuse Trial.fresh) ∧
      ∃ l, Unreleased (taking 1 reuse Trial.fresh).lambdas 1 l ∧ l.id = ⟨"x"⟩ ∧
        (taking 1 reuse Trial.fresh).registry.get? ⟨"x"⟩ =
          some (⟨.object, .text⟩, Closure.kindName) ∧
        ∃ (r : Ref) (v : Session),
          ((Recursion.level 2).call 0 (some l.callable) [some 0]).run.run
            (taking 1 reuse Trial.fresh) = (.ok (.ok (some r)), v) ∧
          v.outside.store.heap.objects[r]? = some (.text "object") := by
  have hfresh : Fresh Trial.fresh := ⟨rfl, rfl, rfl, rfl⟩
  have hw : Reachable (taking 1 reuse Trial.fresh) :=
    (Reachable.of_fresh hfresh).reaches (hfresh.tidy.reaches_taking 1 reuse obeys_reuse)
  have hl : Unreleased (taking 1 reuse Trial.fresh).lambdas 1 _ := ⟨rfl, rfl⟩
  obtain ⟨-, -, -, hmaps, -, hcall, -⟩ := registry_maps_unreleased hw
  have hserved := hcall 1 0 0 _ hl rfl rfl 1 0 [some 0]
  exact ⟨hw, _, hl, rfl, (hmaps _ _ _).mpr ⟨1, _, hl, rfl, rfl, rfl⟩, _, _, hserved, rfl⟩

end ClosureBridge.Session
