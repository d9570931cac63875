import ClosureBridge.Proofs.Dispatch.Fate
import ClosureBridge.Proofs.Registry.Arena
import ClosureBridge.Proofs.Session.Levels
import Mathlib.Algebra.Group.Nat.Defs

/-!
# The calls of a run

The calls of the router that a run makes, those inside other calls included, stand in a ledger in
the order in which they end. What happens between them is not counted, so the counters are the
tally of the ledger.

A run that nests too deep stops in the middle of calls, where the counters do not balance. Runs are
therefore looked at with recursions that go back to where the run began when they nest too deep, and
are otherwise the same.

## Main definitions

* `Dispatch.Call`: a call of the router that has ended.
* `Session.Ledger`: the calls between two states.
* `Stats.tally`: the counters after calls.
* `Recursion.rewinding`: a recursion that goes back to a state when it nests too deep.

## Main statements

* `Session.Ledger.stats_eq`: the counters are the tally of the calls.
* `Session.Ledger.program`, `Session.Ledger.step`, `Session.Ledger.object`: every run that ends has
  a ledger.
* `Session.counters_balance`: what the counters of a run say.
-/

namespace ClosureBridge

/-! ### Computations that go back -/

namespace Exec

variable {σ α : Type} {P : σ → Prop} {m m' : Exec σ α} {u : σ}

/-- A computation that goes back to a state when it nests too deep. -/
def rewind (u : σ) (m : Exec σ α) : Exec σ α :=
  ExceptT.mk fun s =>
    match m.run s with
    | (.error .exhausted, _) => (.error .exhausted, u)
    | r => r

theorem run_rewind (u : σ) (m : Exec σ α) (s : σ) :
    (rewind u m).run s = (.error .exhausted, u) ∧ (m.run s).1 = .error .exhausted ∨
      (rewind u m).run s = m.run s ∧ (m.run s).1 ≠ .error .exhausted := by
  have hrun : (rewind u m).run s = match m.run s with
    | (.error .exhausted, _) => (.error .exhausted, u)
    | r => r := rfl
  rw [hrun]
  rcases m.run s with ⟨(_ | _) | _, s'⟩
  · exact .inr ⟨rfl, by simp⟩
  · exact .inl ⟨rfl, rfl⟩
  · exact .inr ⟨rfl, by simp⟩

theorem rewind_extends (u : σ) (m : Exec σ α) : Extends (rewind u m) m := by
  intro s
  rcases run_rewind u m s with ⟨h, -⟩ | ⟨h, -⟩
  · exact .inl (by rw [h])
  · exact .inr h.symm

theorem extends_rewind (u : σ) (m : Exec σ α) : Extends m (rewind u m) := by
  intro s
  rcases run_rewind u m s with ⟨-, h⟩ | ⟨h, -⟩
  · exact .inl h
  · exact .inr h

/-- What a computation keeps is kept by one that it extends, if that goes back to a state that has
it. -/
theorem Keeps.rewind (hu : P u) (hm : Extends m m') (hm' : Keeps P m') :
    Keeps P (rewind u m) := by
  intro s hs
  rcases run_rewind u m s with ⟨h, -⟩ | ⟨h, hend⟩
  · rw [h]
    exact hu
  · rw [h, ← (hm s).resolve_left hend]
    exact hm' s hs

end Exec

namespace Recursion

/-- A recursion that goes back to a state when it nests too deep. -/
def rewinding (u : Session) (n : Nat) : Recursion where
  call m f args := ExceptT.mk (Exec.rewind u ((level n).call m f args).run)
  host p := Exec.rewind u ((level n).host p)

theorem rewinding_extends (u : Session) (n : Nat) : (rewinding u n).Extends (level n) where
  call m f args := Exec.rewind_extends u ((level n).call m f args).run
  host _ := Exec.rewind_extends u _

theorem extends_rewinding (u : Session) (n : Nat) : (level n).Extends (rewinding u n) where
  call m f args := Exec.extends_rewind u ((level n).call m f args).run
  host _ := Exec.extends_rewind u _

end Recursion

/-! ### Ledgers -/

/-- The identifiers in a registry, of which its size is the number. -/
theorem Registry.Coherent.exists_ids {κ : Type} {r : Registry κ}
    (h : r.Coherent) :
    ∃ ids : List Ident, ids.Nodup ∧ (∀ id, id ∈ ids ↔ r.contains id = true) ∧
      r.size = ids.length := by
  refine ⟨r.index.map Prod.fst, h.index_nodup, fun id => ?_, (List.length_map _).symm⟩
  rw [← not_iff_not, Bool.not_eq_true, Registry.contains_eq_false_iff,
    Registry.slotOf?_eq_none_iff]

/-- A call of the router that has ended. -/
structure Dispatch.Call where
  /-- The object that the callable is called with. -/
  self : Option Ref
  args : Option Ref
  fate : Dispatch.Fate
  answer : Option Ref

open Dispatch (Call Fate Passes)

namespace Session

/-- The calls of the router between two states, in the order in which they end. Between calls there
are changes that are not counted. The calls that a closure makes come before the call that runs
it. -/
inductive Ledger : Session → List Call → Session → Prop where
  | start (w : Session) : Ledger w [] w
  | change {w u v : Session} {calls : List Call} (h : Ledger w calls u) (hc : Change True u v)
    (hs : v.stats = u.stats) : Ledger w calls v
  | call {w u inner left v : Session} {calls inside : List Call} {m : MachineId} {n : Nat}
    {c : Call} (h : Ledger w calls u) (hb : u.bound = some m)
    (hp : Passes ((Recursion.level n).machine m) (Recursion.level n).host c.self c.args u c.fate
      inner left c.answer v)
    (hi : Ledger inner inside left) : Ledger w (calls ++ inside ++ [c]) v

end Session

/-- The counters after calls. -/
def Stats.tally (s : Stats) (calls : List Call) : Stats where
  calls := s.calls + UInt64.ofNat calls.length
  misses := s.misses + UInt64.ofNat (calls.countP fun c => c.fate = .missed)
  argumentErrors :=
    s.argumentErrors + UInt64.ofNat (calls.countP fun c => c.fate = .refused || c.fate = .unfit)
  panics := s.panics + UInt64.ofNat (calls.countP fun c => c.fate = .panicked)

namespace Stats

variable {s : Stats} {calls calls' : List Call} {c : Call}

@[simp] theorem tally_nil : s.tally [] = s := by
  simp [tally]

theorem tally_append : s.tally (calls ++ calls') = (s.tally calls).tally calls' := by
  simp [tally, UInt64.add_assoc]

/-- A call is counted when it arrives and when it has its fate. -/
theorem tally_singleton : s.tally [c] = c.fate.count { s with calls := s.calls + 1 } := by
  cases h : c.fate <;> simp [tally, Fate.count, h]

/-- A call may be counted before the calls inside it. -/
theorem tally_arrived (s : Stats) (calls : List Call) :
    { s with calls := s.calls + 1 }.tally calls =
      { s.tally calls with calls := (s.tally calls).calls + 1 } := by
  have hcomm : s.calls + 1 + UInt64.ofNat calls.length =
      s.calls + UInt64.ofNat calls.length + 1 := by
    ac_rfl
  simp [tally, hcomm]

end Stats

namespace Session

variable {w u v : Session} {calls calls' : List Call} {m : MachineId}

namespace Ledger

/-- Ledgers one after the other. -/
theorem trans (h : Ledger w calls u) (h' : Ledger u calls' v) : Ledger w (calls ++ calls') v := by
  induction h' with
  | start => rwa [List.append_nil]
  | change _ hc hs ih => exact .change (ih h) hc hs
  | call _ hb hp hi ih =>
    rw [← List.append_assoc, ← List.append_assoc]
    exact .call (ih h) hb hp hi

/-- What the changes keep and depends on neither the counters nor what interpreters keep, a ledger
keeps. -/
theorem keeps {P : Session → Prop} (hP : ∀ {w w'}, Change True w w' → P w → P w')
    (hsame : ∀ (w : Session) (s : Stats) (o : Bench.Outside), P w →
      P { w with stats := s, outside := o })
    (h : Ledger w calls v) (hw : P w) : P v := by
  induction h with
  | start => exact hw
  | change _ hc _ ih => exact hP hc (ih hw)
  | @call w u inner left v calls inside m n c _ _ hp _ ih ihi =>
    obtain ⟨o, rfl⟩ := hp.inner_eq
    obtain ⟨o', rfl⟩ := hp.final_eq
    exact hsame left _ o' (ihi (hsame u _ o (ih hw)))

theorem bound_eq (h : Ledger w calls v) (hb : w.bound = some m) : v.bound = some m :=
  h.keeps (P := fun w => w.bound = some m) (fun hc => hc.bound_eq) (fun _ _ _ hb => hb) hb

theorem coherent (h : Ledger w calls v) (hw : w.registry.Coherent) : v.registry.Coherent :=
  h.keeps (P := fun w => w.registry.Coherent) (fun hc => hc.coherent) (fun _ _ _ hw => hw) hw

/-- The counters are the tally of the calls. -/
theorem stats_eq (h : Ledger w calls v) : v.stats = w.stats.tally calls := by
  induction h with
  | start => exact Stats.tally_nil.symm
  | change _ _ hs ih => rw [hs, ih]
  | @call w u inner left v calls inside m n c _ _ hp _ ih ihi =>
    obtain ⟨o, rfl⟩ := hp.inner_eq
    obtain ⟨o', rfl⟩ := hp.final_eq
    change c.fate.count left.stats = _
    have hleft : left.stats = { u.stats with calls := u.stats.calls + 1 }.tally inside := ihi
    rw [Stats.tally_append, Stats.tally_append, Stats.tally_singleton, ← ih, hleft,
      Stats.tally_arrived]

/-- A closure was invoked and answered for with an object exactly when its result was built. -/
theorem invokes_and_isSome (h : Ledger w calls v) :
    ∀ c ∈ calls, (c.fate.invokes && c.answer.isSome) = decide (c.fate = .returned) := by
  induction h with
  | start => exact fun c hc => by cases hc
  | change _ _ _ ih => exact ih
  | call _ _ hp _ ih ihi =>
    intro c hc
    rw [List.mem_append, List.mem_append, List.mem_singleton] at hc
    obtain (hc | hc) | rfl := hc
    · exact ih c hc
    · exact ihi c hc
    · exact hp.invokes_and_isSome

end Ledger

/-! ### Every run that ends has a ledger -/

/-- There is a ledger between two states. -/
def Accounted (w v : Session) : Prop :=
  ∃ calls, Ledger w calls v

theorem Accounted.refl (w : Session) : Accounted w w :=
  ⟨[], .start w⟩

theorem Accounted.bound_eq (h : Accounted w v) (hb : w.bound = some m) : v.bound = some m :=
  h.elim fun _ h => h.bound_eq hb

/-- To have a ledger from a state lasts. -/
theorem lasting_accounted (w : Session) : Lasting True (Accounted w) :=
  .of_change (fun hc _ hs h => h.imp fun _ h => .change h hc hs)
    fun _ _ _ call _ args => (call args).obeys_of_direct trivial

theorem bound_level (n : Nat) (p : Program .value) (hb : w.bound = some m) :
    (((Recursion.level n).host p).run w).2.bound = some m :=
  bound_of_reaches (((stable_reaches_of_direct trivial w).level n).host p
    (p.obeys_of_direct trivial) w .refl) hb

/-- A call of the router that does not nest too deep is the last of a ledger, with the calls that
its closure makes before it, if the closure keeps a ledger. -/
theorem Ledger.enter {n : Nat} (hh : ∀ inner p, inner.bound = some m →
      Exec.Keeps (Accounted inner) (Exec.rewind inner ((Recursion.level n).host p)))
    (h : Ledger w calls u) (hb : u.bound = some m) {self args : Option Ref}
    {out : Except Stop (Option Ref)}
    (hr : ((Recursion.level n).enter self args).run u = (out, v))
    (hend : out ≠ .error .exhausted) :
    ∃ fate inner left answer inside, out = .ok answer ∧
      Passes ((Recursion.level n).machine m) (Recursion.level n).host self args u fate inner left
        answer v ∧
      Ledger inner inside left ∧ Ledger w (calls ++ inside ++ [⟨self, args, fate, answer⟩]) v := by
  rcases Dispatch.passes_or_exhausts (Recursion.level n).call (Recursion.level n).host hb
    (fun p u => bound_level n p) self args with
    ⟨p, x, left, -, hx⟩ | ⟨fate, inner, left, answer, final, hp, hrun⟩
  · cases hr.symm.trans hx
    exact absurd rfl hend
  · cases hr.symm.trans hrun
    have hinner : inner.bound = some m := by
      obtain ⟨o, rfl⟩ := hp.inner_eq
      exact hb
    obtain ⟨inside, hi⟩ : Accounted inner left := by
      refine hp.of_host (.refl inner) fun p out left hr hend => ?_
      have hkept := hh inner p hinner inner (.refl inner)
      rwa [(Exec.extends_rewind inner _).run_eq hr hend] at hkept
    exact ⟨fate, inner, left, answer, inside, rfl, hp, hi, .call h hb hp hi⟩

/-- Calls of the router keep a ledger when those that nest too deep go back to where it starts. -/
theorem keeps_enter {n : Nat} (hh : ∀ inner p, inner.bound = some m →
      Exec.Keeps (Accounted inner) (Exec.rewind inner ((Recursion.level n).host p)))
    (hb : w.bound = some m) (self args : Option Ref) :
    Exec.Keeps (Accounted w) ((Recursion.rewinding w n).enter self args) := by
  intro u hu
  have hbu := hu.bound_eq hb
  have hhost : ∀ p u, u.bound = some m →
      (((Recursion.rewinding w n).host p).run u).2.bound = some m := by
    intro p u hu
    rcases Exec.run_rewind w ((Recursion.level n).host p) u with ⟨h, -⟩ | ⟨h, -⟩
    · exact (congrArg (fun r => r.2.bound) h).trans hb
    · exact (congrArg (fun r => r.2.bound) h).trans (bound_level n p hu)
  rcases Dispatch.passes_or_exhausts (Recursion.rewinding w n).call
    (Recursion.rewinding w n).host hbu hhost self args with
    ⟨p, x, left, hx, hrun⟩ | ⟨_, _, _, answer, final, -, hrun⟩
  · have hleft : left = w := by
      rcases Exec.run_rewind w ((Recursion.level n).host p) x with ⟨h, -⟩ | ⟨h, hend⟩
      · exact (congrArg Prod.snd (hx.symm.trans h) :)
      · exact absurd (congrArg Prod.fst (h.symm.trans hx)) hend
    have hstate : (((Recursion.rewinding w n).enter self args).run u).2 = w :=
      (congrArg Prod.snd hrun).trans hleft
    rw [hstate]
    exact .refl w
  · obtain ⟨calls, h⟩ := hu
    have hrun' := ((Recursion.rewinding_extends w n).enter self args).run_eq hrun (by simp)
    obtain ⟨_, _, _, _, _, -, -, -, h'⟩ := h.enter hh hbu hrun' (by simp)
    have hstate : (((Recursion.rewinding w n).enter self args).run u).2 = final :=
      congrArg Prod.snd hrun
    rw [hstate]
    exact ⟨_, h'⟩

/-- Calls keep a ledger, with any number of levels of nesting left, when those that nest too deep go
back to where it starts. -/
theorem keeps_rewinding (n : Nat) {w : Session} (hb : w.bound = some m) :
    (Recursion.rewinding w n).Keeps True (Accounted w) := by
  induction n generalizing w with
  | zero =>
    refine ⟨fun _ _ _ => ?_, fun _ _ => ?_, keeps_enter (fun inner _ _ => ?_) hb⟩
    · exact Exec.Keeps.rewind (.refl w) (.refl _) (Script.Eval.Keeps.ofExec .exhausted)
    · exact Exec.Keeps.rewind (.refl w) (.refl _) .exhausted
    · exact Exec.Keeps.rewind (.refl inner) (.refl _) .exhausted
  | succ n ih =>
    have hhost : ∀ u p, u.bound = some m →
        Exec.Keeps (Accounted u) (Exec.rewind u ((Recursion.level (n + 1)).host p)) := by
      intro u p hu
      have hkept := (lasting_accounted u).program (ih hu) p (p.obeys_of_direct trivial)
      exact hkept.rewind (.refl u) ((Recursion.extends_rewinding u n).program p)
    refine ⟨fun k f args => ?_, fun p _ => hhost w p hb, keeps_enter hhost hb⟩
    have hs : Steady False True (Accounted w) := (lasting_accounted w).steady.calm
    have hkept := hs.invoke ((ih hb).call k) (fun self args => hs.receive ((ih hb).enter self args))
      f args
    have hext := Recursion.extends_rewinding w n
    exact Exec.Keeps.rewind (.refl w) (hext.call.invoke hext.enter k f args) hkept

section

variable {n : Nat} {α : Type} {out : Except Stop α}

/-- A run that ends has a ledger, if a recursion that goes back keeps one. -/
theorem Ledger.of_extends {e e' : Exec Session α} (hext : Exec.Extends e e')
    (hkept : Exec.Keeps (Accounted u) e') (hr : e.run u = (out, v)) (hend : out ≠ .error .exhausted)
    (h : Ledger w calls u) : ∃ inside, Ledger w (calls ++ inside) v := by
  have hv := hkept u (.refl u)
  rw [hext.run_eq hr hend] at hv
  exact hv.imp fun _ h' => h.trans h'

variable (h : Ledger w calls u) (hb : u.bound = some m)
include h hb

theorem Ledger.program {t : Task} {p : Program t} {out : Except Stop t.Result}
    (hr : (Run.program (.level n) p).run u = (out, v)) (hend : out ≠ .error .exhausted) :
    ∃ inside, Ledger w (calls ++ inside) v :=
  h.of_extends ((Recursion.extends_rewinding u n).program p)
    ((lasting_accounted u).program (keeps_rewinding n hb) p (p.obeys_of_direct trivial)) hr hend

theorem Ledger.step {s : Step} {out : Except Stop Answer}
    (hr : (Run.step (.level n) s).run u = (out, v)) (hend : out ≠ .error .exhausted) :
    ∃ inside, Ledger w (calls ++ inside) v :=
  h.of_extends ((Recursion.extends_rewinding u n).step s)
    ((lasting_accounted u).step (keeps_rewinding n hb) s (s.obeys_of_direct trivial)) hr hend

theorem Ledger.object {k : Nat} {f : Option Ref} {args : List (Option Ref)}
    {out : Except Stop (Except Script.Fault (Option Ref))}
    (hr : ((Recursion.level n).call k f args).run.run u = (out, v))
    (hend : out ≠ .error .exhausted) : ∃ inside, Ledger w (calls ++ inside) v :=
  h.of_extends ((Recursion.extends_rewinding u n).call k f args)
    ((keeps_rewinding n hb).call k f args) hr hend

end

/-- The counters of a state and the calls that led to it. -/
structure Balanced (v : Session) (calls : List Call) : Prop where
  total : v.stats.calls.toNat = calls.length
  misses : v.stats.misses.toNat = calls.countP fun c => c.fate = .missed
  argumentErrors :
    v.stats.argumentErrors.toNat = calls.countP fun c => c.fate = .refused || c.fate = .unfit
  panics : v.stats.panics.toNat = calls.countP fun c => c.fate = .panicked
  balance : v.stats.calls.toNat =
    v.stats.misses.toNat + v.stats.argumentErrors.toNat + v.stats.panics.toNat +
      calls.countP fun c => c.fate.invokes && c.answer.isSome

/-- Every call is counted with one fate. -/
theorem length_eq_countP (calls : List Call) :
    calls.length = (calls.countP fun c => c.fate = .missed) +
      (calls.countP fun c => c.fate = .refused || c.fate = .unfit) +
      (calls.countP fun c => c.fate = .panicked) + calls.countP fun c => c.fate = .returned := by
  induction calls with
  | nil => rfl
  | cons c rest ih =>
    cases hc : c.fate <;> simp [hc] <;> omega

/-- From counters at zero, the counters balance after fewer calls than they can count. -/
theorem Ledger.balanced (h : Ledger w calls v) (hs : w.stats = {}) (hlt : calls.length < 2 ^ 64) :
    Balanced v calls := by
  have hcount (p : Call → Bool) : (0 + UInt64.ofNat (calls.countP p)).toNat = calls.countP p := by
    rw [UInt64.zero_add]
    exact UInt64.toNat_ofNat_of_lt' (Nat.lt_of_le_of_lt List.countP_le_length hlt)
  have hstats := h.stats_eq
  rw [hs] at hstats
  have htotal : v.stats.calls.toNat = calls.length := by
    rw [hstats]
    exact (congrArg UInt64.toNat (UInt64.zero_add _)).trans (UInt64.toNat_ofNat_of_lt' hlt)
  have hmisses : v.stats.misses.toNat = _ := (congrArg (·.misses.toNat) hstats).trans (hcount _)
  have herrors : v.stats.argumentErrors.toNat = _ :=
    (congrArg (·.argumentErrors.toNat) hstats).trans (hcount _)
  have hpanics : v.stats.panics.toNat = _ := (congrArg (·.panics.toNat) hstats).trans (hcount _)
  refine ⟨htotal, hmisses, herrors, hpanics, ?_⟩
  have hreturned : (calls.countP fun c => c.fate.invokes && c.answer.isSome) =
      calls.countP fun c => c.fate = .returned :=
    List.countP_congr fun c hc => by rw [h.invokes_and_isSome c hc]
  rw [htotal, hmisses, herrors, hpanics, hreturned]
  exact length_eq_countP calls

/-- **The counters balance.** An interpreter is bound and nothing has been counted yet. Then every
call of the router that does not nest too deep, wherever it is made, is counted once when it arrives
and once, or not at all when it is answered with the object built from the result, when it has its
fate; the calls that its closure makes come before it in the ledger. Every run that ends goes on
with the ledger. Whenever no call is in progress, and as long as there were fewer calls than can be
counted, the calls are the misses, the argument errors, the panics and the calls that invoked their
closure and were answered with an object; and as many identifiers are reported as the registry
has. -/
theorem counters_balance (hb : w.bound = some m) (hs : w.stats = {})
    (hw : w.registry.Coherent) :
    (∀ u calls, Ledger w calls u →
      (∀ n self args out v, ((Recursion.level n).enter self args).run u = (out, v) →
        out ≠ .error .exhausted → ∃ fate inner left answer inside, out = .ok answer ∧
          Passes ((Recursion.level n).machine m) (Recursion.level n).host self args u fate inner
            left answer v ∧
          inner.stats = { u.stats with calls := u.stats.calls + 1 } ∧ Ledger inner inside left ∧
          v.stats = fate.count left.stats ∧
          Ledger w (calls ++ inside ++ [⟨self, args, fate, answer⟩]) v) ∧
      (∀ n s out v, (Run.step (.level n) s).run u = (out, v) → out ≠ .error .exhausted →
        ∃ inside, Ledger w (calls ++ inside) v) ∧
      (∀ n t (p : Program t) out v, (Run.program (.level n) p).run u = (out, v) →
        out ≠ .error .exhausted → ∃ inside, Ledger w (calls ++ inside) v) ∧
      ∀ n k f args out v, ((Recursion.level n).call k f args).run.run u = (out, v) →
        out ≠ .error .exhausted → ∃ inside, Ledger w (calls ++ inside) v) ∧
    ∀ v calls, Ledger w calls v → calls.length < 2 ^ 64 → Balanced v calls ∧
      ∃ ids : List Ident, ids.Nodup ∧ (∀ id, id ∈ ids ↔ v.registry.contains id = true) ∧
        Answer.statsJson v = .record [
          ("calls", .count calls.length),
          ("misses", .count (calls.countP fun c => c.fate = .missed)),
          ("argument_errors",
            .count (calls.countP fun c => c.fate = .refused || c.fate = .unfit)),
          ("panics", .count (calls.countP fun c => c.fate = .panicked)),
          ("registered", .count ids.length)] := by
  refine ⟨fun u calls h => ⟨?_, ?_, ?_, ?_⟩, fun v calls h hlt => ?_⟩
  · intro n self args out v hr hend
    obtain ⟨fate, inner, left, answer, inside, hout, hp, hi, h'⟩ :=
      h.enter (fun inner p hinner => (keeps_rewinding n hinner).host p (p.obeys_of_direct trivial))
        (h.bound_eq hb) hr hend
    refine ⟨fate, inner, left, answer, inside, hout, hp, ?_, hi, ?_, h'⟩
    · obtain ⟨o, rfl⟩ := hp.inner_eq
      rfl
    · obtain ⟨o, rfl⟩ := hp.final_eq
      rfl
  · exact fun n s out v hr hend => h.step (h.bound_eq hb) hr hend
  · exact fun n t p out v hr hend => h.program (h.bound_eq hb) hr hend
  · exact fun n k f args out v hr hend => h.object (h.bound_eq hb) hr hend
  · have hbalanced := h.balanced hs hlt
    obtain ⟨ids, hnodup, hmem, hsize⟩ := (h.coherent hw).exists_ids
    refine ⟨hbalanced, ids, hnodup, hmem, ?_⟩
    rw [Answer.statsJson, hbalanced.total, hbalanced.misses, hbalanced.argumentErrors,
      hbalanced.panics, hsize]

/-- A closure that calls the router itself, with an object and a tuple that are there. -/
def relay : Closure := fun _ =>
  .step (.registry (.dispatch (.raw (some 3)) (.raw (some 4)))) fun _ => Closure.result (.object 4)

/-- A state in which a closure is registered that has the router run another one, which panics. -/
def relaying : Session where
  registry :=
    { slots := #[some ⟨⟨"f"⟩, ⟨.object, .object⟩, relay⟩,
        some ⟨⟨"g"⟩, ⟨.object, .object⟩, Closure.panicking .other⟩]
      index := [(⟨"g"⟩, 1), (⟨"f"⟩, 0)] }
  bound := some (.scripted 0)
  outside := {
    store := {
      heap := ⟨#[.dict ∅, .dict ∅, .text "f", .text "g", .tuple [some 0]]⟩
      machines := #[{ main := 0, builtins := 1 }] }
    rest := {} }

theorem coherent_relaying : relaying.registry.Coherent := by
  let r : Registry Closure :=
    { slots := #[some ⟨⟨"f"⟩, ⟨.object, .object⟩, relay⟩], index := [(⟨"f"⟩, 0)] }
  have hf : ({} : Registry Closure).insert ⟨"f"⟩ ⟨.object, .object⟩ relay = .ok r := rfl
  have hg : r.insert ⟨"g"⟩ ⟨.object, .object⟩ (Closure.panicking .other) =
    .ok relaying.registry := rfl
  exact ((Registry.coherent_empty.of_insert hf).2.1.of_insert hg).2.1

/-- A closure whose own call of the router panics can still be answered with its result. -/
theorem counters_balance_relaying :
    relaying.bound = some (.scripted 0) ∧ relaying.stats = {} ∧ relaying.registry.Coherent ∧
      ∃ calls v, Ledger relaying calls v ∧ calls.length = 2 ∧
        ((Recursion.level 2).enter (some 2) (some 4)).run relaying = (.ok (some 4), v) ∧
        v.stats.panics = 1 ∧ Balanced v calls := by
  have hinner : Ledger (Dispatch.entered relaying) [⟨some 3, some 4, .panicked, none⟩] _ :=
    .call (n := 1) (.start _) rfl (.panicked rfl rfl) (.start _)
  have houter : Ledger relaying
      [⟨some 3, some 4, .panicked, none⟩, ⟨some 2, some 4, .returned, some 4⟩] _ :=
    .call (n := 2) (.start _) rfl (.returned rfl rfl rfl) hinner
  have hbalance := counters_balance (m := .scripted 0) (w := relaying) rfl rfl coherent_relaying
  exact ⟨rfl, rfl, coherent_relaying, _, _, houter, rfl, rfl, rfl,
    (hbalance.2 _ _ houter (by decide)).1⟩

end Session

end ClosureBridge
