import ClosureBridge.Proofs.Dispatch.Router

/-!
# The fate of a call

Whichever interpreter is bound, a call of the router is admitted or not, and what becomes of it is
counted once, when it is over.

## Main definitions

* `Dispatch.Fate`, `Dispatch.Fate.count`: what becomes of a call, and what is counted then.
* `Dispatch.admission`: find the closure of a call and unpack its arguments.
* `Dispatch.Passes`: a call of the router that has its fate.

## Main statements

* `Dispatch.passes_or_exhausts`: every call of the router has a fate, unless the closure nests too
  deep.
* `Dispatch.Passes.inner_eq`, `Dispatch.Passes.final_eq`: what the router itself changes.
-/

namespace ClosureBridge.Dispatch

open Exec (run_bind run_bind_of_ok)

/-- What becomes of a call. -/
inductive Fate where
  /-- Nothing is registered under the identifier, if there is one. -/
  | missed
  /-- The tuple does not have the arguments that the closure takes. -/
  | refused
  /-- The closure panics. -/
  | panicked
  /-- The result of the closure cannot be built. -/
  | unfit
  /-- The object built from the result is the answer. -/
  | returned
  deriving DecidableEq, Repr

namespace Fate

/-- Whether the closure is invoked. -/
def invokes : Fate → Bool
  | missed => false
  | refused => false
  | _ => true

/-- What is counted when a call has its fate. -/
def count : Fate → Stats → Stats
  | missed, s => { s with misses := s.misses + 1 }
  | refused, s => { s with argumentErrors := s.argumentErrors + 1 }
  | panicked, s => { s with panics := s.panics + 1 }
  | unfit, s => { s with argumentErrors := s.argumentErrors + 1 }
  | returned, s => s

end Fate

/-- Whether a call is admitted, and then what to run for it and the kind of the result. -/
inductive Admission where
  | missed
  | refused
  | admitted (target : OutputKind) (p : Program .value)

/-- Find the closure of a call and unpack its arguments. -/
def admission (I : Interpreter Bench.Outside) (self args : Option Ref) :
    Exec Session Admission := do
  let some id ← (I.textOf self).run | return .missed
  let some (shape, call) := (← get).call? id | return .missed
  let .ok arguments ← (Marshal.parseIn I args shape.input).run | return .refused
  return .admitted shape.output (call arguments)

/-- What follows the admission of a call. -/
def conclude (I : Interpreter Bench.Outside) (host : Program .value → Exec Session HostValue) :
    Admission → Exec Session (Option Ref)
  | .missed => miss I
  | .refused => argumentError
  | .admitted target p => host p >>= finish I target

/-- A call of the router with its fate, the state from which the closure starts and the state that
it leaves, which are the same when it is not invoked, the answer, and the state after the call. -/
inductive Passes (I : Interpreter Bench.Outside) (host : Program .value → Exec Session HostValue)
    (self args : Option Ref) (w : Session) :
    Fate → Session → Session → Option Ref → Session → Prop where
  | missed {u v : Session} {answer : Option Ref}
    (ha : (admission I self args).run (entered w) = (.ok .missed, u))
    (hm : (miss I).run u = (.ok answer, v)) : Passes I host self args w .missed u u answer v
  | refused {u : Session} (ha : (admission I self args).run (entered w) = (.ok .refused, u)) :
    Passes I host self args w .refused u u none (u.counted Fate.refused.count)
  | panicked {u left : Session} {target : OutputKind} {p : Program .value} {payload : Payload}
    (ha : (admission I self args).run (entered w) = (.ok (.admitted target p), u))
    (hr : (host p).run u = (.error (.panic payload), left)) :
    Passes I host self args w .panicked u left none
      ((I.raiseRuntimeError (crossing ("Host closure panicked: " ++ panicText payload))).run.run
        (left.counted Fate.panicked.count)).2
  | unfit {u left v : Session} {target : OutputKind} {p : Program .value} {value : HostValue}
    (ha : (admission I self args).run (entered w) = (.ok (.admitted target p), u))
    (hr : (host p).run u = (.ok value, left))
    (hv : (Marshal.buildOut I value target).run.run left = (.ok none, v)) :
    Passes I host self args w .unfit u left none (v.counted Fate.unfit.count)
  | returned {u left v : Session} {target : OutputKind} {p : Program .value} {value : HostValue}
    {out : Ref} (ha : (admission I self args).run (entered w) = (.ok (.admitted target p), u))
    (hr : (host p).run u = (.ok value, left))
    (hv : (Marshal.buildOut I value target).run.run left = (.ok (some out), v)) :
    Passes I host self args w .returned u left (some out) v

section

variable {I : Interpreter Bench.Outside} {host : Program .value → Exec Session HostValue}
  {self args : Option Ref} {w : Session}

/-- Admitting a call changes nothing but what the interpreter keeps. -/
theorem run_admission (I : Interpreter Bench.Outside) (self args : Option Ref) (w : Session) :
    ∃ a o, (admission I self args).run w = (.ok a, { w with outside := o }) := by
  unfold admission
  rw [run_bind_of_ok (Quiet.run_run _ _)]
  split
  · rw [Exec.run_get_bind]
    split
    · rw [run_bind_of_ok (Quiet.run_run _ _)]
      split <;> exact ⟨_, _, rfl⟩
    · exact ⟨_, _, rfl⟩
  · exact ⟨_, _, rfl⟩

/-- The router admits a call and goes on from there. -/
theorem run_route_of_bound {rc : Script.Caller Bench} {m : MachineId} (hb : w.bound = some m) :
    (route (Bench.machine rc) host self args).run w =
      (admission (Bench.machine rc m) self args >>= conclude (Bench.machine rc m) host).run w := by
  unfold route admission
  rw [run_bind_of_ok (run_current hb), bind_assoc]
  dsimp only
  rw [run_bind_of_ok (Quiet.run_run _ _), run_bind_of_ok (Quiet.run_run _ _)]
  rcases ReaderT.run ((Bench.machine rc m).textOf self) w.descriptors w.outside with ⟨_ | id, o⟩
  · rfl
  · dsimp only
    rw [bind_assoc, Exec.run_get_bind, Exec.run_get_bind]
    rcases World.call? { w with outside := o } id with _ | ⟨shape, call⟩
    · rfl
    · dsimp only
      rw [bind_assoc, run_bind_of_ok (Quiet.run_run _ _), run_bind_of_ok (Quiet.run_run _ _)]
      rcases ReaderT.run (Marshal.parseIn (Bench.machine rc m) args shape.input) w.descriptors o
        with ⟨_ | arguments, o'⟩ <;> rfl

namespace Passes

variable {fate : Fate} {inner left final : Session} {answer : Option Ref}

/-- Until the closure starts nothing changes but the count of calls and what the interpreter
keeps. -/
theorem inner_eq (h : Passes I host self args w fate inner left answer final) :
    ∃ o, inner = { entered w with outside := o } := by
  obtain ⟨a, o, hrun⟩ := run_admission I self args (entered w)
  refine ⟨o, ?_⟩
  cases h with
  | missed ha _ => exact (congrArg Prod.snd (ha.symm.trans hrun) :)
  | refused ha => exact (congrArg Prod.snd (ha.symm.trans hrun) :)
  | panicked ha _ => exact (congrArg Prod.snd (ha.symm.trans hrun) :)
  | unfit ha _ _ => exact (congrArg Prod.snd (ha.symm.trans hrun) :)
  | returned ha _ _ => exact (congrArg Prod.snd (ha.symm.trans hrun) :)

/-- After the closure nothing changes but the one counter of the fate and what the interpreter
keeps. -/
theorem final_eq (h : Passes I host self args w fate inner left answer final) :
    ∃ o, final = { left with stats := fate.count left.stats, outside := o } := by
  cases h with
  | missed _ hm => exact ⟨_, (congrArg Prod.snd hm).symm⟩
  | refused _ => exact ⟨_, rfl⟩
  | panicked _ _ => exact ⟨_, rfl⟩
  | @unfit _ _ v _ _ _ _ _ hv =>
    have hv' : v = _ := (congrArg Prod.snd hv).symm
    exact ⟨v.outside, by rw [hv']; rfl⟩
  | returned _ _ hv => exact ⟨_, (congrArg Prod.snd hv).symm⟩

/-- An invoked closure is answered for with an object exactly when its result can be built. -/
theorem invokes_and_isSome (h : Passes I host self args w fate inner left answer final) :
    (fate.invokes && answer.isSome) = decide (fate = .returned) := by
  cases h <;> rfl

/-- What the closure leaves, when it is invoked. -/
theorem of_host {Q : Session → Prop} (h : Passes I host self args w fate inner left answer final)
    (hinner : Q inner)
    (hhost : ∀ p out v, (host p).run inner = (out, v) → out ≠ .error .exhausted → Q v) :
    Q left := by
  cases h with
  | missed _ _ => exact hinner
  | refused _ => exact hinner
  | panicked _ hr => exact hhost _ _ _ hr (by simp)
  | unfit _ hr _ => exact hhost _ _ _ hr (by simp)
  | returned _ hr _ => exact hhost _ _ _ hr (by simp)

end Passes

/-- **Every call has a fate**, unless the closure nests too deep, and then the call stops where the
closure does. -/
theorem passes_or_exhausts (rc : Script.Caller Bench)
    (host : Program .value → Exec Session HostValue) {m : MachineId} (hb : w.bound = some m)
    (hhost : ∀ p u, u.bound = some m → ((host p).run u).2.bound = some m)
    (self args : Option Ref) :
    (∃ p u left, (host p).run u = (.error .exhausted, left) ∧
        (dispatch (Bench.machine rc) host self args).run w = (.error .exhausted, left)) ∨
      ∃ fate inner left answer final,
        Passes (Bench.machine rc m) host self args w fate inner left answer final ∧
          (dispatch (Bench.machine rc) host self args).run w = (.ok answer, final) := by
  have hb' : (entered w).bound = some m := hb
  obtain ⟨a, o, ha⟩ := run_admission (Bench.machine rc m) self args (entered w)
  rw [dispatch_eq, run_guarded, run_route_of_bound hb', run_bind_of_ok ha]
  cases a with
  | missed => exact .inr ⟨_, _, _, _, _, .missed ha rfl, rfl⟩
  | refused => exact .inr ⟨_, _, _, _, _, .refused ha, rfl⟩
  | admitted target p =>
    have hleft := hhost p { entered w with outside := o } hb'
    unfold conclude
    rw [run_bind]
    rcases hr : (host p).run { entered w with outside := o } with ⟨(payload | _) | value, left⟩
    · rw [hr] at hleft
      refine .inr ⟨_, _, _, _, _, .panicked ha hr, ?_⟩
      exact run_bind_of_ok (run_current (w := left.counted Fate.panicked.count) hleft)
    · exact .inl ⟨p, _, left, hr, rfl⟩
    · dsimp only
      unfold finish
      rcases hv : (Marshal.buildOut (Bench.machine rc m) value target).run.run left with
        ⟨_ | _ | out, v⟩
      · cases hv
      · refine .inr ⟨_, _, _, _, _, .unfit ha hr hv, ?_⟩
        rw [run_bind_of_ok hv]
        rfl
      · refine .inr ⟨_, _, _, _, _, .returned ha hr hv, ?_⟩
        rw [run_bind_of_ok hv]
        rfl

end

end ClosureBridge.Dispatch
