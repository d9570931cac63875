import ClosureBridge.Proofs.Dispatch.Router
import ClosureBridge.Proofs.Session.Levels

/-!
# How a call of the router ends

A call that arrives at the router ends in one of five ways, unless the closure that it runs nests
deeper than the budget. The router answers with a missing object exactly when it has made an error
pending itself, and otherwise leaves the pending error as the closure left it.

## Main definitions

* `Dispatch.Ending`, `Dispatch.Ends`: the ways in which a call ends.
* `Dispatch.Exhausts`: the closure of a call nests too deep.

## Main statements

* `Dispatch.ends_of_result`: how a call ends whose closure gives a result.
* `Dispatch.run_enter`: every call of the router ends in one of these ways.
-/

namespace ClosureBridge

open Script (Fault Object)

namespace Dispatch

/-- How a call of the router ends. -/
structure Ending where
  /-- The state that the closure left, or the state at entry when no closure ran. -/
  left : Session
  /-- The error that the router made pending. -/
  raised : Option Fault
  answer : Option Ref
  /-- The state that the router left. -/
  final : Session

/-- The ways in which a call of the router ends, in a scripted interpreter. -/
inductive Ends (host : Program .value → Exec Session HostValue) (k : Nat) (self args : Option Ref)
    (w : Session) : Ending → Prop where
  /-- The object is no text, or nothing is registered under it: the answer is the object that stands
  for none. -/
  | missed (hf : found? w self = none) :
    Ends host k self args w {
      left := entered w
      raised := none
      answer := some w.outside.store.heap.objects.size
      final := ((entered w).counted fun s => { s with misses := s.misses + 1 }).making .none }
  /-- The tuple does not have the arguments that the closure takes. -/
  | refused {shape : Shape} {call : Closure} {e : Fault} (hf : found? w self = some (shape, call))
    (ha : unpacked w args shape.input = .error e) :
    Ends host k self args w {
      left := entered w
      raised := some e
      answer := none
      final := ((entered w).raising k e).counted fun s =>
        { s with argumentErrors := s.argumentErrors + 1 } }
  /-- The closure panics. -/
  | panicked {shape : Shape} {call : Closure} {arguments : Arguments} {payload : Payload}
    {left : Session} (hf : found? w self = some (shape, call))
    (ha : unpacked w args shape.input = .ok arguments)
    (hr : (host (call arguments)).run (entered w) = (.error (.panic payload), left)) :
    Ends host k self args w {
      left
      raised := some (panicFault payload)
      answer := none
      final := (left.counted fun s => { s with panics := s.panics + 1 }).raising k
        (panicFault payload) }
  /-- The result cannot be brought into the output kind, or is then a text with a NUL in it
  (`Marshal.prepare_eq_error_iff`). -/
  | unfit {shape : Shape} {call : Closure} {arguments : Arguments} {v : HostValue}
    {e : ArgumentError} {left : Session} (hf : found? w self = some (shape, call))
    (ha : unpacked w args shape.input = .ok arguments)
    (hr : (host (call arguments)).run (entered w) = (.ok v, left))
    (hv : Marshal.prepare v shape.output = .error e) :
    Ends host k self args w {
      left
      raised := some (.runtime (crossing e.message))
      answer := none
      final := (left.raising k (.runtime (crossing e.message))).counted fun s =>
        { s with argumentErrors := s.argumentErrors + 1 } }
  /-- The answer is the object that the result is built into, brought into the output kind
  (`Marshal.prepare_eq_ok_iff`). -/
  | answered {shape : Shape} {call : Closure} {arguments : Arguments} {v : HostValue}
    {built : Built} {left : Session} (hf : found? w self = some (shape, call))
    (ha : unpacked w args shape.input = .ok arguments)
    (hr : (host (call arguments)).run (entered w) = (.ok v, left))
    (hv : Marshal.prepare v shape.output = .ok built) :
    Ends host k self args w {
      left
      raised := none
      answer := some (placed left built).1
      final := (placed left built).2 }

/-- The closure that a call runs nests deeper than the budget. -/
def Exhausts (host : Program .value → Exec Session HostValue) (self args : Option Ref)
    (w left : Session) : Prop :=
  ∃ shape call arguments, found? w self = some (shape, call) ∧
    unpacked w args shape.input = .ok arguments ∧
    (host (call arguments)).run (entered w) = (.error .exhausted, left)

section

variable {rc : Script.Caller Bench} {host : Program .value → Exec Session HostValue} {k : Nat}
  {self args : Option Ref} {w : Session}

/-- The arguments are not touched by the count of calls. -/
theorem run_serve_entered {shape : Shape} {call : Closure} {arguments : Arguments}
    (ha : unpacked w args shape.input = .ok arguments) :
    (serve (Bench.machine rc (.scripted k)) host args shape call).run (entered w) =
      (host (call arguments) >>= finish (Bench.machine rc (.scripted k)) shape.output).run
        (entered w) := by
  have ha' : unpacked (entered w) args shape.input = .ok arguments := ha
  rw [run_serve, ha']

/-- A call ends as described. -/
theorem Ends.run_eq {e : Ending} (h : Ends host k self args w e)
    (hb : w.bound = some (.scripted k))
    (hleft : e.left.bound = some (.scripted k)) :
    (dispatch (Bench.machine rc) host self args).run w = (.ok e.answer, e.final) := by
  cases h with
  | missed hf => exact run_dispatch_of_missed hb hf
  | @refused shape call e hf ha =>
    have ha' : unpacked (entered w) args shape.input = .error e := ha
    rw [run_dispatch_of_found hb hf]
    refine run_guarded_of_ok ?_
    rw [run_serve, ha']
    exact run_argumentError
  | panicked hf ha hr =>
    rw [run_dispatch_of_found hb hf]
    refine run_guarded_of_panic ?_ hleft
    rw [run_serve_entered ha, Exec.run_bind, hr]
  | unfit hf ha hr hv =>
    rw [run_dispatch_of_found hb hf]
    refine run_guarded_of_ok ?_
    rw [run_serve_entered ha, Exec.run_bind_of_ok hr, run_finish, hv]
  | answered hf ha hr hv =>
    rw [run_dispatch_of_found hb hf]
    refine run_guarded_of_ok ?_
    rw [run_serve_entered ha, Exec.run_bind_of_ok hr, run_finish, hv]

theorem Exhausts.run_eq {left : Session} (h : Exhausts host self args w left)
    (hb : w.bound = some (.scripted k)) :
    (dispatch (Bench.machine rc) host self args).run w = (.error .exhausted, left) := by
  obtain ⟨shape, call, arguments, hf, ha, hr⟩ := h
  rw [run_dispatch_of_found hb hf, run_guarded, run_serve_entered ha, Exec.run_bind, hr]

/-- A call whose closure gives a result is answered with the object that is built from the result in
the output kind, or ends with the error that there is no such result or that it is a text with a
NUL in it. -/
theorem ends_of_result {shape : Shape} {call : Closure} {arguments : Arguments} {v : HostValue}
    {left : Session} (hf : found? w self = some (shape, call))
    (ha : unpacked w args shape.input = .ok arguments)
    (hr : (host (call arguments)).run (entered w) = (.ok v, left)) :
    (∃ u, v.coerce shape.output = some u ∧ u.crosses = true ∧
      Ends host k self args w {
        left
        raised := none
        answer := some (placed left u.built).1
        final := (placed left u.built).2 }) ∨
    ∃ e : ArgumentError, ((v.coerce shape.output = none ∧ e = .coercion v.kind shape.output) ∨
        ∃ s, v.coerce shape.output = some (.text s) ∧ '\x00' ∈ s.toList ∧ e = .interiorNul) ∧
      Ends host k self args w {
        left
        raised := some (.runtime (crossing e.message))
        answer := none
        final := (left.raising k (.runtime (crossing e.message))).counted fun s =>
          { s with argumentErrors := s.argumentErrors + 1 } } := by
  cases hv : Marshal.prepare v shape.output with
  | ok built =>
    obtain ⟨u, hu, hcrosses, rfl⟩ := Marshal.prepare_eq_ok_iff.mp hv
    exact .inl ⟨u, hu, hcrosses, .answered hf ha hr hv⟩
  | error e => exact .inr ⟨e, Marshal.prepare_eq_error_iff.mp hv, .unfit hf ha hr hv⟩

/-- Every call ends in one of the ways, unless it exhausts the budget. -/
theorem ends_or_exhausts (host : Program .value → Exec Session HostValue) (k : Nat)
    (self args : Option Ref) (w : Session) :
    (∃ e, Ends host k self args w e) ∨ ∃ left, Exhausts host self args w left := by
  cases hf : found? w self with
  | none => exact .inl ⟨_, .missed hf⟩
  | some found =>
    obtain ⟨shape, call⟩ := found
    cases ha : unpacked w args shape.input with
    | error e => exact .inl ⟨_, .refused hf ha⟩
    | ok arguments =>
      rcases hr : (host (call arguments)).run (entered w) with ⟨(payload | _) | v, left⟩
      · exact .inl ⟨_, .panicked hf ha hr⟩
      · exact .inr ⟨left, shape, call, arguments, hf, ha, hr⟩
      · obtain ⟨_, -, -, he⟩ | ⟨_, -, he⟩ := ends_of_result hf ha hr
        · exact .inl ⟨_, he⟩
        · exact .inl ⟨_, he⟩

/-- The answer is missing exactly when the router made an error pending. -/
theorem Ends.answer_eq_none_iff {e : Ending} (h : Ends host k self args w e) :
    e.answer = none ↔ e.raised.isSome = true := by
  cases h <;> simp

@[simp] theorem pending_placed (w : Session) (v : Built) :
    (placed w v).2.pending k = w.pending k := by
  cases v <;> rfl

/-- The error that is pending in the end is the one that the router made pending, or else the one
that was pending when the closure was done. -/
theorem Ends.pending_final {e : Ending} (h : Ends host k self args w e)
    (hk : k < e.left.outside.store.machines.size) :
    e.final.pending k = e.raised.or (e.left.pending k) := by
  cases h with
  | missed hf => simp
  | refused hf ha =>
    rw [Session.pending_counted, Session.pending_raising hk]
    rfl
  | panicked hf ha hr => exact Session.pending_raising hk _
  | unfit hf ha hr hv =>
    rw [Session.pending_counted, Session.pending_raising hk]
    rfl
  | answered hf ha hr hv => simp

/-- The state in which the closure of a call leaves things is reached from the state at entry. -/
theorem Ends.reaches {n : Nat} {e : Ending} (h : Ends (Recursion.level n).host k self args w e) :
    Session.Reaches True (entered w) e.left := by
  have hP := Session.stable_reaches_of_direct trivial (entered w)
  have run {call : Closure} {arguments : Arguments} {out : Except Stop HostValue} {left : Session}
      (hr : ((Recursion.level n).host (call arguments)).run (entered w) = (out, left)) :
      Session.Reaches True (entered w) left := by
    have hleft := (hP.level n).host (call arguments) ((call arguments).obeys_of_direct trivial)
      (entered w) .refl
    rw [hr] at hleft
    exact hleft
  cases h with
  | missed hf => exact .refl
  | refused hf ha => exact .refl
  | panicked hf ha hr => exact run hr
  | unfit hf ha hr hv => exact run hr
  | answered hf ha hr hv => exact run hr

/-- A call ends the same when closures get more levels of nesting. -/
theorem Ends.extends {host' : Program .value → Exec Session HostValue}
    (hh : ∀ p, Exec.Extends (host p) (host' p)) {e : Ending} (h : Ends host k self args w e) :
    Ends host' k self args w e := by
  cases h with
  | missed hf => exact .missed hf
  | refused hf ha => exact .refused hf ha
  | panicked hf ha hr => exact .panicked hf ha ((hh _).run_eq hr (by simp))
  | unfit hf ha hr hv => exact .unfit hf ha ((hh _).run_eq hr (by simp)) hv
  | answered hf ha hr hv => exact .answered hf ha ((hh _).run_eq hr (by simp)) hv

/-- **How a call of the router ends.** With a scripted interpreter bound, every call ends in one of
the five ways or exhausts the budget, whatever the closure does meanwhile. The answer is missing
exactly when the router made an error pending itself; that error is then pending, and otherwise what
was pending when the closure was done. A call that has ended ends the same with any greater
budget. -/
theorem run_enter (n : Nat) (hb : w.bound = some (.scripted k))
    (hk : k < w.outside.store.machines.size) (self args : Option Ref) :
    ((∃ e, Ends (Recursion.level n).host k self args w e) ∨
        ∃ left, Exhausts (Recursion.level n).host self args w left) ∧
      (∀ e, Ends (Recursion.level n).host k self args w e →
        ((Recursion.level n).enter self args).run w = (.ok e.answer, e.final) ∧
          (e.answer = none ↔ e.raised.isSome = true) ∧
          e.final.pending k = e.raised.or (e.left.pending k) ∧
          ∀ n', n ≤ n' → Ends (Recursion.level n').host k self args w e) ∧
      ∀ left, Exhausts (Recursion.level n).host self args w left →
        ((Recursion.level n).enter self args).run w = (.error .exhausted, left) := by
  refine ⟨ends_or_exhausts _ k self args w, fun e he => ?_, fun left hleft => hleft.run_eq hb⟩
  have hreach := he.reaches
  have hbound : e.left.bound = some (.scripted k) := Session.bound_of_reaches hreach hb
  have hmachine : k < e.left.outside.store.machines.size :=
    (Session.grows_of_reaches hreach).lt_machines hk
  refine ⟨he.run_eq hb hbound, he.answer_eq_none_iff, he.pending_final hmachine, fun n' hn => ?_⟩
  exact he.extends (Recursion.level_extends hn).host

/-- A state in which a closure is registered that takes itself out of the registry and panics. -/
def vanishing : Session where
  registry :=
    { slots := #[some ⟨⟨"f"⟩, ⟨.object, .object⟩, fun _ => .unregister "f" fun _ =>
        .panic (.text "gone")⟩]
      index := [(⟨"f"⟩, 0)] }
  bound := some (.scripted 0)
  outside := {
    store := {
      heap := ⟨#[.dict ∅, .dict ∅, .text "f", .tuple [some 0]]⟩
      machines := #[{ main := 0, builtins := 1 }] }
    rest := {} }

/-- The panic of a closure that is no longer registered is told to the interpreter. -/
theorem run_enter_vanishing :
    vanishing.bound = some (.scripted 0) ∧ 0 < vanishing.outside.store.machines.size ∧
      ∃ e, Ends (Recursion.level 1).host 0 (some 2) (some 3) vanishing e ∧
        e.raised = some (.runtime "Host closure panicked: gone") ∧
        e.final.registry.contains ⟨"f"⟩ = false ∧
        ((Recursion.level 1).enter (some 2) (some 3)).run vanishing = (.ok none, e.final) := by
  have hk : 0 < vanishing.outside.store.machines.size := by decide
  have hf : found? vanishing (some 2) = some (⟨.object, .object⟩, _) := rfl
  have he : Ends (Recursion.level 1).host 0 (some 2) (some 3) vanishing _ := .panicked hf rfl rfl
  exact ⟨rfl, hk, _, he, by decide, by decide, ((run_enter 1 rfl hk _ _).2.1 _ he).1⟩

end

end Dispatch

end ClosureBridge
