import ClosureBridge.Proofs.Lambda.Freshness
import ClosureBridge.Proofs.Lambda.Resolution
import Mathlib.Data.List.Nodup
import Mathlib.Data.List.Pairwise

/-!
# The definitions of a run

A lambda written as source text is defined by the first resolution that succeeds, and read from the
namespace by all that come after it. Each attempt draws a name of its own, and what the definition
runs may resolve other lambdas, or open other contexts, or define names again. The attempts of a run
and their ends stand in a chronicle; between them nothing happens to the lambdas.

A resolution of a lambda that is being defined waits for the definition that it is part of, and does
not end.

## Main definitions

* `SourceLambda.Milestone`: an attempt to define a lambda begins or ends.
* `Session.Chronicle`: the milestones between two states.
* `SourceLambda.fetched`: what a resolution gives that only reads the namespace.
* `SourceLambda.Resolves`: how a resolution ends, and which milestones it adds.

## Main statements

* `Session.Chronicle.global_eq`: a lambda that has been defined keeps its name.
* `Session.Chronicle.logged`: what a chronicle tells about the state it leads to.
* `SourceLambda.resolves`: every resolution adds to the chronicle what it does.
* `Session.defined_once`: a lambda is defined once in a run, under a name of its own.
-/

namespace ClosureBridge

open Script (Store)

/-! ### Milestones -/

namespace SourceLambda

/-- An attempt to define a lambda begins or ends. -/
inductive Milestone where
  /-- A name is drawn to define a lambda. -/
  | begun (n : Nat) (name : Ident)
  /-- The definition of a lambda under a name ends, with or without success. -/
  | ended (n : Nat) (name : Ident) (ok : Bool)
  deriving DecidableEq

/-- The end of a definition is none for a lambda that is not being defined. -/
theorem ended_eq_self {l : SourceLambda} (h : l.pending = none) (ok : Bool) : l.ended ok = l := by
  cases l
  cases h
  cases ok <;> simp [ended]

namespace Milestone

/-- The name that is drawn. -/
def drawn? : Milestone → Option Ident
  | begun _ name => some name
  | ended .. => none

/-- Whether a lambda is defined with success. -/
def defines (n : Nat) : Milestone → Bool
  | begun .. => false
  | ended n' _ ok => n' = n && ok

/-- The end of an attempt is none of what begins. -/
theorem ended_mem_begun {log : List Milestone} {m n : Nat} {name name' : Ident} {ok : Bool} :
    ended m name ok ∈ log ++ [begun n name'] ↔ ended m name ok ∈ log := by
  simp

/-- The ends of attempts after one more end. -/
theorem ended_mem_ended {log : List Milestone} {m n : Nat} {name name' : Ident} {ok ok' : Bool} :
    ended m name' ok' ∈ log ++ [ended n name ok] ↔
      ended m name' ok' ∈ log ∨ m = n ∧ name' = name ∧ ok' = ok := by
  simp

end Milestone

/-- The names that are drawn, in order. -/
def drawnNames (log : List Milestone) : List Ident :=
  log.filterMap Milestone.drawn?

@[simp] theorem drawnNames_begun (log : List Milestone) (n : Nat) (name : Ident) :
    drawnNames (log ++ [.begun n name]) = drawnNames log ++ [name] :=
  List.filterMap_append ..

@[simp] theorem drawnNames_ended (log : List Milestone) (n : Nat) (name : Ident) (ok : Bool) :
    drawnNames (log ++ [.ended n name ok]) = drawnNames log :=
  (List.filterMap_append ..).trans (List.append_nil _)

/-- The name that is drawn after a number of others. -/
def nthName (i : Nat) : Ident :=
  ⟨Ident.sourceStem ++ toString (i % 2 ^ 64)⟩

end SourceLambda

open SourceLambda (Milestone drawnNames drawnNames_begun drawnNames_ended nthName)

namespace Session

/-- The milestones between two states. Between milestones lambdas are kept, and there are changes
that have no part in lambdas written as source text. -/
inductive Chronicle : Session → List Milestone → Session → Prop where
  | start (w : Session) : Chronicle w [] w
  | aside {w u v : Session} {log : List Milestone} (h : Chronicle w log u) (hc : Change True u v)
    (hs : v.sources = u.sources) (hi : v.sourceIds = u.sourceIds) : Chronicle w log v
  | kept {w u : Session} {log : List Milestone} {l : SourceLambda} (h : Chronicle w log u)
    (hl : l.IsIdle) : Chronicle w log { u with sources := u.sources.push l }
  | begun {w u : Session} {log : List Milestone} {n : Nat} {l : SourceLambda}
    (h : Chronicle w log u) (hl : u.sources[n]? = some l) (hidle : l.IsIdle) :
    Chronicle w (log ++ [.begun n u.sourceIds.next.1]) (u.attempting n)
  | ended {w u : Session} {log : List Milestone} {n : Nat} {l : SourceLambda} {name : Ident}
    (h : Chronicle w log u) (hl : u.sources[n]? = some l) (hpending : l.pending = some name)
    (ok : Bool) : Chronicle w (log ++ [.ended n name ok]) (u.settled n ok)

variable {w u v : Session} {log log' : List Milestone} {n : Nat} {l : SourceLambda} {name : Ident}

/-- The lambdas after one of them begins to be defined. -/
theorem getElem?_attempting (hl : u.sources[n]? = some l) (m : Nat) :
    (u.attempting n).sources[m]? =
      if n = m then some (l.begun u.sourceIds.next.1) else u.sources[m]? := by
  rw [attempting, Array.getElem?_modify]
  split
  · next h =>
    subst h
    rw [hl]
    rfl
  · rfl

/-- The lambdas after the definition of one of them has ended. -/
theorem getElem?_settled (hl : u.sources[n]? = some l) (ok : Bool) (m : Nat) :
    (u.settled n ok).sources[m]? = if n = m then some (l.ended ok) else u.sources[m]? := by
  rw [settled, Array.getElem?_modify]
  split
  · next h =>
    subst h
    rw [hl]
    rfl
  · rfl

/-- No definition ends where there is none. -/
theorem settled_eq_self (h : ∀ l, u.sources[n]? = some l → l.pending = none) (ok : Bool) :
    u.settled n ok = u := by
  have hsources : u.sources.modify n (SourceLambda.ended ok) = u.sources := by
    refine Array.ext_getElem? fun m => ?_
    rw [Array.getElem?_modify]
    split
    · next hm =>
      subst hm
      cases hl : u.sources[n]? with
      | none => rfl
      | some l => exact congrArg some (SourceLambda.ended_eq_self (h l hl) ok)
    · rfl
  exact congrArg (fun sources => { u with sources }) hsources

namespace Chronicle

/-- Chronicles one after the other. -/
theorem trans (h : Chronicle w log u) (h' : Chronicle u log' v) : Chronicle w (log ++ log') v := by
  induction h' with
  | start => rwa [List.append_nil]
  | aside _ hc hs hi ih => exact .aside ih hc hs hi
  | kept _ hl ih => exact .kept ih hl
  | begun _ hl hidle ih =>
    rw [← List.append_assoc]
    exact .begun ih hl hidle
  | ended _ hl hpending ok ih =>
    rw [← List.append_assoc]
    exact .ended ih hl hpending ok

/-- Every change goes on with a chronicle. -/
theorem change (h : Chronicle w log u) (hc : Change True u v) : ∃ log', Chronicle w log' v := by
  have hc' := hc
  cases hc with
  | kept hl => exact ⟨log, .kept h hl⟩
  | begun hl hidle => exact ⟨_, .begun h hl hidle⟩
  | ended n ok =>
    by_cases hnone : ∀ l, u.sources[n]? = some l → l.pending = none
    · rw [settled_eq_self hnone]
      exact ⟨log, h⟩
    · obtain ⟨l, hl⟩ := not_forall.mp hnone
      obtain ⟨hl, hpending⟩ := Classical.not_imp.mp hl
      obtain ⟨name, hname⟩ := Option.ne_none_iff_exists'.mp hpending
      exact ⟨_, .ended h hl hname ok⟩
  | _ => exact ⟨log, .aside h hc' rfl rfl⟩

/-- A lambda that has been defined keeps its name. -/
theorem global_eq (h : Chronicle u log v) (hl : u.sources[n]? = some l)
    (hglobal : l.global = some name) :
    ∃ l', v.sources[n]? = some l' ∧ l'.source = l.source ∧ l'.global = some name := by
  induction h with
  | start => exact ⟨l, hl, rfl, hglobal⟩
  | aside _ _ hs _ ih => rwa [hs]
  | kept _ _ ih =>
    obtain ⟨l', hl', h'⟩ := ih
    have hlt := (Array.getElem?_eq_some_iff.mp hl').1
    exact ⟨l', by rw [Array.getElem?_push, if_neg (Nat.ne_of_lt hlt), hl'], h'⟩
  | @begun u _ m l₁ _ hl₁ hidle ih =>
    obtain ⟨l', hl', hsource, hname⟩ := ih
    have hne : m ≠ n := by
      rintro rfl
      cases hl₁.symm.trans hl'
      rw [hidle.1] at hname
      cases hname
    exact ⟨l', by rw [getElem?_attempting hl₁, if_neg hne, hl'], hsource, hname⟩
  | @ended u _ m l₁ _ _ hl₁ _ ok ih =>
    obtain ⟨l', hl', hsource, hname⟩ := ih
    by_cases hm : m = n
    · subst hm
      cases hl₁.symm.trans hl'
      refine ⟨l₁.ended ok, by rw [getElem?_settled hl₁, if_pos rfl], hsource, ?_⟩
      simp [SourceLambda.ended, hname]
    · exact ⟨l', by rw [getElem?_settled hl₁, if_neg hm, hl'], hsource, hname⟩

end Chronicle

/-- To have a chronicle from a state is stable. -/
theorem stable_chronicle (w : Session) : Stable True fun v => ∃ log, Chronicle w log v where
  toLasting := .of_change (fun hc _ _ h => h.elim fun _ h => h.change hc)
    fun _ _ _ call _ args => (call args).obeys_of_direct trivial
  counted f h := h.elim fun _ h => h.change (.counted f)

/-- A lambda that is being defined is left alone by what its definition runs. -/
theorem stable_defining (hpending : l.pending ≠ none) :
    Stable True fun v => v.sources[n]? = some l where
  change _ _ _ hs hv := hs.sources hv hpending
  closures _ _ _ call _ args := (call args).obeys_of_direct trivial
  held _ _ := ⟨fun _ _ _ _ hv => hv⟩
  next _ := ⟨fun _ _ _ _ hv => hv⟩
  holding _ _ hv _ _ := hv
  dropping _ hv := hv
  settling {w v m l'} ok hw hl' hidle hv := by
    have hne : m ≠ n := by
      rintro rfl
      cases hl'.symm.trans hw
      exact hpending hidle.2
    rw [settled, Array.getElem?_modify, if_neg hne]
    exact hv
  counted _ hv := hv

/-! ### What a chronicle tells -/

/-- What a chronicle that starts before the first lambda tells about the state it leads to. -/
structure Logged (log : List Milestone) (v : Session) : Prop where
  /-- As many identifiers are drawn as there are attempts. -/
  ids : v.sourceIds = ⟨Ident.sourceStem, UInt64.ofNat (drawnNames log).length⟩
  /-- They are drawn in order. -/
  drawn : drawnNames log = (List.range (drawnNames log).length).map nthName
  /-- A lambda has the name under which it was defined with success. -/
  global : ∀ {n : Nat} {l : SourceLambda}, v.sources[n]? = some l →
    ∀ name, l.global = some name ↔ .ended n name true ∈ log
  /-- A lambda is being defined under a name that was drawn for it. -/
  pending : ∀ {n : Nat} {l : SourceLambda} {name : Ident}, v.sources[n]? = some l →
    l.pending = some name → l.global = none ∧ .begun n name ∈ log
  /-- What is defined is a lambda. -/
  size : ∀ {n : Nat} {name : Ident} {ok : Bool}, .ended n name ok ∈ log → n < v.sources.size
  /-- A definition that ends has begun. -/
  begins : ∀ {n : Nat} {name : Ident} {ok : Bool}, .ended n name ok ∈ log → .begun n name ∈ log
  /-- A lambda is defined with success once at most. -/
  once : ∀ n, log.countP (Milestone.defines n) ≤ 1

namespace Logged

/-- Nothing is known of what has not begun. -/
theorem start (hs : w.sources = #[]) (hi : w.sourceIds = ⟨Ident.sourceStem, 0⟩) :
    Logged [] w where
  ids := hi
  drawn := rfl
  global hl := by simp [hs] at hl
  pending hl := by simp [hs] at hl
  size := nofun
  begins := nofun
  once _ := Nat.zero_le 1

theorem of_eq (h : Logged log u) (hs : v.sources = u.sources) (hi : v.sourceIds = u.sourceIds) :
    Logged log v where
  ids := hi.trans h.ids
  drawn := h.drawn
  global hl := h.global (hs ▸ hl)
  pending hl := h.pending (hs ▸ hl)
  size hm := hs ▸ h.size hm
  begins := h.begins
  once := h.once

/-- A lambda that is kept is none of those that were defined. -/
theorem kept (h : Logged log u) (hidle : l.IsIdle) :
    Logged log { u with sources := u.sources.push l } where
  ids := h.ids
  drawn := h.drawn
  global {m l'} hl name := by
    rw [Array.getElem?_push] at hl
    split at hl
    · next hm =>
      cases hl
      constructor
      · intro hglobal
        rw [hidle.1] at hglobal
        cases hglobal
      · intro hended
        exact absurd (h.size hended) (Nat.not_lt_of_le (Nat.le_of_eq hm.symm))
    · exact h.global hl name
  pending {m l' name} hl hpending := by
    rw [Array.getElem?_push] at hl
    split at hl
    · cases hl
      rw [hidle.2] at hpending
      cases hpending
    · exact h.pending hl hpending
  size hm := by
    rw [Array.size_push]
    exact Nat.lt_succ_of_lt (h.size hm)
  begins := h.begins
  once := h.once

/-- The name that is drawn next. -/
theorem next_eq (h : Logged log u) : u.sourceIds.next.1 = nthName (drawnNames log).length := by
  simp [h.ids, IdentSource.next, nthName]

/-- One more attempt begins. -/
theorem begun (h : Logged log u) (hl : u.sources[n]? = some l) (hidle : l.IsIdle) :
    Logged (log ++ [.begun n u.sourceIds.next.1]) (u.attempting n) where
  ids := by
    rw [drawnNames_begun, List.length_append, List.length_singleton, UInt64.ofNat_add]
    change u.sourceIds.next.2 = _
    rw [h.ids]
    rfl
  drawn := by
    rw [drawnNames_begun, List.length_append, List.length_singleton, List.range_succ,
      List.map_append, ← h.drawn, h.next_eq, List.map_singleton]
  global {m l'} hl' name := by
    rw [Milestone.ended_mem_begun]
    rw [getElem?_attempting hl] at hl'
    split at hl'
    · next hm =>
      cases hl'
      subst hm
      exact h.global hl name
    · exact h.global hl' name
  pending {m l' name} hl' hpending := by
    rw [getElem?_attempting hl] at hl'
    split at hl'
    · next hm =>
      cases hl'
      cases hpending
      subst hm
      exact ⟨hidle.1, by simp⟩
    · obtain ⟨hglobal, hbegun⟩ := h.pending hl' hpending
      exact ⟨hglobal, List.mem_append_left _ hbegun⟩
  size hm := by
    have hlt := h.size (Milestone.ended_mem_begun.mp hm)
    rwa [attempting, Array.size_modify]
  begins hm := List.mem_append_left _ (h.begins (Milestone.ended_mem_begun.mp hm))
  once m := by
    rw [List.countP_append]
    exact h.once m

/-- A lambda without a name has not been defined. -/
theorem countP_eq_zero (h : Logged log u) (hl : u.sources[n]? = some l)
    (hglobal : l.global = none) : log.countP (Milestone.defines n) = 0 := by
  refine List.countP_eq_zero.mpr fun m hm hdefines => ?_
  cases m with
  | begun n' name => cases hdefines
  | ended n' name ok =>
    obtain ⟨hn, rfl⟩ := Bool.and_eq_true_iff.mp hdefines
    obtain rfl := of_decide_eq_true hn
    rw [(h.global hl name).mpr hm] at hglobal
    cases hglobal

/-- An attempt ends. -/
theorem ended (h : Logged log u) (hl : u.sources[n]? = some l) (hpending : l.pending = some name)
    (ok : Bool) : Logged (log ++ [.ended n name ok]) (u.settled n ok) where
  ids := by
    rw [drawnNames_ended]
    exact h.ids
  drawn := by
    rw [drawnNames_ended]
    exact h.drawn
  global {m l'} hl' name' := by
    have hglobal := (h.pending hl hpending).1
    rw [Milestone.ended_mem_ended]
    rw [getElem?_settled hl] at hl'
    split at hl'
    · next hm =>
      cases hl'
      subst hm
      -- Before its attempt ended the lambda had no name, so no end with success is in the log.
      have hnone : ¬ .ended n name' true ∈ log := fun hmem => by
        rw [(h.global hl name').mpr hmem] at hglobal
        cases hglobal
      cases ok <;> simp [SourceLambda.ended, hglobal, hpending, hnone, eq_comm]
    · next hm =>
      rw [h.global hl' name']
      simp [Ne.symm hm]
  pending {m l' name'} hl' hpending' := by
    rw [getElem?_settled hl] at hl'
    split at hl'
    · cases hl'
      cases hpending'
    · obtain ⟨hglobal, hbegun⟩ := h.pending hl' hpending'
      exact ⟨hglobal, List.mem_append_left _ hbegun⟩
  size hm := by
    rw [settled, Array.size_modify]
    rcases Milestone.ended_mem_ended.mp hm with hm | ⟨rfl, -⟩
    · exact h.size hm
    · exact (Array.getElem?_eq_some_iff.mp hl).1
  begins hm := by
    refine List.mem_append_left _ ?_
    rcases Milestone.ended_mem_ended.mp hm with hm | ⟨rfl, rfl, -⟩
    · exact h.begins hm
    · exact (h.pending hl hpending).2
  once m := by
    rw [List.countP_append]
    by_cases hm : n = m
    · subst hm
      rw [h.countP_eq_zero hl (h.pending hl hpending).1, Nat.zero_add]
      exact List.countP_le_length
    · have hother : Milestone.defines m (.ended n name ok) = false := by
        simp [Milestone.defines, hm]
      rw [List.countP_singleton, hother]
      exact h.once m

/-- No name is drawn twice before the counter starts again. -/
theorem nodup (h : Logged log v) (hlt : (drawnNames log).length ≤ 2 ^ 64) :
    (drawnNames log).Nodup := by
  rw [h.drawn]
  refine List.Nodup.map_on (fun i hi j hj hij => ?_) List.nodup_range
  have hi' := Nat.lt_of_lt_of_le (List.mem_range.mp hi) hlt
  have hj' := Nat.lt_of_lt_of_le (List.mem_range.mp hj) hlt
  have htext := congrArg Ident.text hij
  rw [nthName, nthName, Nat.mod_eq_of_lt hi', Nat.mod_eq_of_lt hj'] at htext
  exact IdentSource.number_injective htext

/-- A name is drawn for one lambda. -/
theorem eq_of_begun (h : Logged log v) (hlt : (drawnNames log).length ≤ 2 ^ 64) {n' : Nat}
    (hn : .begun n name ∈ log) (hn' : .begun n' name ∈ log) : n = n' := by
  have hpairs := List.pairwise_filterMap.mp (h.nodup hlt)
  by_contra hne
  have hdistinct : Milestone.begun n name ≠ .begun n' name := fun heq => hne (by cases heq; rfl)
  have : Std.Symm fun a b : Milestone =>
      ∀ x, a.drawn? = some x → ∀ y, b.drawn? = some y → x ≠ y :=
    ⟨fun a b hab x hx y hy => Ne.symm (hab y hy x hx)⟩
  exact hpairs.forall hn hn' hdistinct name rfl name rfl rfl

end Logged

/-- What a chronicle that starts before the first lambda tells. -/
theorem Chronicle.logged (h : Chronicle w log v) (hs : w.sources = #[])
    (hi : w.sourceIds = ⟨Ident.sourceStem, 0⟩) : Logged log v := by
  induction h with
  | start => exact .start hs hi
  | aside _ _ hs' hi' ih => exact ih.of_eq hs' hi'
  | kept _ hidle ih => exact ih.kept hidle
  | begun _ hl hidle ih => exact ih.begun hl hidle
  | ended _ hl hpending ok ih => exact ih.ended hl hpending ok

end Session

/-! ### Resolutions -/

namespace SourceLambda

variable {I : Interpreter Bench.Outside} {c : Context} {w u v : Session} {log : List Milestone}
  {n : Nat} {l : SourceLambda} {name : Ident}

/-- What a resolution gives that only reads the namespace: what a name is bound to there, or the
error that it is not bound. -/
def fetched (I : Interpreter Bench.Outside) (c : Context) (name : Ident) (w : Session) :
    Except Stop (Except LambdaError Ref) × Session :=
  let (bound, o) := ReaderT.run (I.dictGet (some c.globals) name.text) w.descriptors w.outside
  (.ok (match bound with
    | some r => .ok r
    | none => .error (.evaluation ("global " ++ name.text ++ " is not defined"))),
    { w with outside := o })

theorem run_fetch_eq (hcrosses : Image.crosses name.text = true) :
    (fetch I c name).run w = fetched I c name w := by
  have hget : (c.getGlobal I name.text).run w =
      (.ok (ReaderT.run (I.dictGet (some c.globals) name.text) w.descriptors w.outside).1,
        { w with outside :=
          (ReaderT.run (I.dictGet (some c.globals) name.text) w.descriptors w.outside).2 }) := by
    unfold Context.getGlobal
    rw [if_pos hcrosses]
    exact Quiet.run_run _ _
  unfold fetch fetched
  rw [Exec.run_bind_of_ok hget]
  rcases ReaderT.run (I.dictGet (some c.globals) name.text) w.descriptors w.outside with ⟨_ | r, o⟩
  · rfl
  · rfl

/-- In a scripted interpreter nothing else happens. -/
theorem fetched_scripted (call : Script.Caller Bench) (k : Nat) :
    fetched (Script.interface call k) c name w =
      (.ok (match (w.outside.store.binding? c.globals name.text).join with
        | some r => .ok r
        | none => .error (.evaluation ("global " ++ name.text ++ " is not defined"))), w) := by
  have hrun : ReaderT.run ((Script.interface call k).dictGet (some c.globals) name.text)
      w.descriptors w.outside =
        ((ReaderT.run (Store.find (some c.globals) name.text) w.descriptors w.outside).1.join,
          (ReaderT.run (Store.find (some c.globals) name.text) w.descriptors w.outside).2) := rfl
  rw [Capture.find_eq] at hrun
  rw [fetched, hrun]

/-- A name that is drawn crosses the boundary. -/
theorem crosses_of_stem {s : IdentSource} (h : s.stem = Ident.sourceStem) :
    Image.crosses s.next.1.text = true := by
  simpa [Image.crosses] using Script.nul_not_mem_of_isName (Ident.isName_next h)

/-- A definition that fails tells which text could not be evaluated. -/
theorem eq_of_define_error {source : String} {e : LambdaError}
    (h : (define I c name source).run w = (.ok (.error e), v)) :
    e = .evaluation ("could not evaluate lambda " ++ source) := by
  unfold define at h
  obtain ⟨r, x, -, h⟩ := Exec.exists_of_run_bind h
  cases r with
  | none =>
    cases h
    rfl
  | some r =>
    obtain ⟨_, _, -, h⟩ := Exec.exists_of_run_bind h
    cases h

/-- How a resolution ends in a state that a chronicle leads to, and what the chronicle tells of it.
-/
inductive Resolves (w : Session) (log : List Milestone) (I : Interpreter Bench.Outside)
    (c : Context) (n : Nat) (l : SourceLambda) (u : Session) :
    Except Stop (Except LambdaError Ref) → Session → Prop where
  /-- A lambda that has been defined is read from the namespace, and no source is run. -/
  | fetched {name : Ident} (hglobal : l.global = some name)
    (h : Session.Chronicle w log (fetched I c name u).2) :
    Resolves w log I c n l u (fetched I c name u).1 (fetched I c name u).2
  /-- A lambda that is being defined waits for itself, for ever. -/
  | waiting {name : Ident} (hglobal : l.global = none) (hpending : l.pending = some name) :
    Resolves w log I c n l u (.error .exhausted) u
  /-- The definition does not end. -/
  | endless {inside : List Milestone} {v : Session} (hidle : l.IsIdle)
    (h : Session.Chronicle w (log ++ .begun n u.sourceIds.next.1 :: inside) v) :
    Resolves w log I c n l u (.error .exhausted) v
  /-- The definition fails, and the lambda is as it was. -/
  | failed {inside : List Milestone} {out : Except Stop (Except LambdaError Ref)} {v : Session}
    (hidle : l.IsIdle)
    (h : Session.Chronicle w (log ++ .begun n u.sourceIds.next.1 ::
      (inside ++ [.ended n u.sourceIds.next.1 false])) v)
    (hl : v.sources[n]? = some l)
    (hout : out = .ok (.error (.evaluation ("could not evaluate lambda " ++ l.source))) ∨
      ∃ payload, out = .error (.panic payload)) :
    Resolves w log I c n l u out v
  /-- The definition succeeds, the lambda has the name that was drawn, and it is read from the
  namespace. -/
  | defined {inside : List Milestone} {x : Session} (hidle : l.IsIdle)
    (hl : x.sources[n]? = some { l with global := some u.sourceIds.next.1 })
    (h : Session.Chronicle w (log ++ .begun n u.sourceIds.next.1 ::
      (inside ++ [.ended n u.sourceIds.next.1 true]))
      (SourceLambda.fetched I c u.sourceIds.next.1 x).2) :
    Resolves w log I c n l u (SourceLambda.fetched I c u.sourceIds.next.1 x).1
      (SourceLambda.fetched I c u.sourceIds.next.1 x).2

/-- Reading the namespace goes on with a chronicle. -/
theorem chronicle_fetched (hI : I.Calm) (h : Session.Chronicle w log u) :
    Session.Chronicle w log (fetched I c name u).2 := by
  have hleads := (hI.dictGet (some c.globals) name.text).leads u.descriptors u.outside
  exact .aside h (.outside hleads.grows) rfl rfl

theorem crosses_of_begun (hlog : Session.Logged log u) (h : .begun n name ∈ log) :
    Image.crosses name.text = true := by
  have hname : name ∈ drawnNames log := List.mem_filterMap.mpr ⟨_, h, rfl⟩
  rw [hlog.drawn] at hname
  obtain ⟨i, -, rfl⟩ := List.mem_map.mp hname
  have hcrosses := @crosses_of_stem ⟨Ident.sourceStem, UInt64.ofNat i⟩ rfl
  simpa [nthName, IdentSource.next] using hcrosses

/-- A lambda that is neither defined nor being defined is defined by its resolution. -/
theorem resolves_of_idle (h : Session.Chronicle w log u) (hlog : Session.Logged log u)
    (hI : ∀ {P : Session → Prop}, Session.Stable True P → I.Keeps P) (hl : u.sources[n]? = some l)
    (hidle : l.IsIdle) :
    Resolves w log I c n l u ((resolve I c n).run u).1 ((resolve I c n).run u).2 := by
  have hbegun : (u.attempting n).sources[n]? = some (l.begun u.sourceIds.next.1) := by
    rw [Session.getElem?_attempting hl, if_pos rfl]
  have hstable : Session.Stable True fun v => v.sources[n]? = some (l.begun u.sourceIds.next.1) :=
    Session.stable_defining (Option.some_ne_none _)
  have hchronicle := Session.stable_chronicle (u.attempting n)
  have hstays := (hstable.define (hI hstable) c u.sourceIds.next.1 l.source).catchPanic _ hbegun
  obtain ⟨inside, hinside⟩ :=
    (hchronicle.define (hI hchronicle) c u.sourceIds.next.1 l.source).catchPanic _ ⟨[], .start _⟩
  have hlonger := (h.begun hl hidle).trans hinside
  rw [List.append_assoc, List.singleton_append] at hlonger
  rw [run_resolve_of_idle I c hl hidle]
  rcases hrun : (define I c u.sourceIds.next.1 l.source).catchPanic.run (u.attempting n) with
    ⟨stop | made, v⟩
  · rw [hrun] at hlonger
    obtain rfl := Exec.eq_exhausted_of_catchPanic hrun
    exact .endless hidle hlonger
  · rw [hrun] at hlonger hstays
    have hended := hlonger.ended hstays rfl (succeeded made)
    rw [List.append_assoc, List.cons_append] at hended
    have hsettled : (Session.settled v n (succeeded made)).sources[n]? =
        some ((l.begun u.sourceIds.next.1).ended (succeeded made)) := by
      rw [Session.getElem?_settled hstays, if_pos rfl]
    rw [ended_begun hidle] at hsettled
    cases made with
    | error payload => exact .failed hidle hended hsettled (.inr ⟨payload, rfl⟩)
    | ok made =>
      cases made with
      | error e =>
        obtain rfl := eq_of_define_error (Exec.run_of_catchPanic hrun)
        exact .failed hidle hended hsettled (.inl rfl)
      | ok =>
        have hconclude : (conclude I c u.sourceIds.next.1 (.ok (.ok ()))).run
            (Session.settled v n true) =
              fetched I c u.sourceIds.next.1 (Session.settled v n true) :=
          run_fetch_eq (crosses_of_stem (congrArg IdentSource.stem hlog.ids))
        dsimp only
        rw [succeeded, hconclude]
        exact .defined hidle hsettled (chronicle_fetched (hI hchronicle).calm hended)

/-- **A resolution adds to the chronicle what it does.** -/
theorem resolves (h : Session.Chronicle w log u) (hlog : Session.Logged log u) (N : Nat)
    (c : Context) (hl : u.sources[n]? = some l) :
    Resolves w log ((Recursion.level N).machine c.machine) c n l u
      ((resolve ((Recursion.level N).machine c.machine) c n).run u).1
      ((resolve ((Recursion.level N).machine c.machine) c n).run u).2 := by
  have hI {P : Session → Prop} (hP : Session.Stable True P) :
      ((Recursion.level N).machine c.machine).Keeps P :=
    hP.interpreter (hP.level N) c.machine
  have hcalm := (hI (Session.stable_chronicle w)).calm
  generalize (Recursion.level N).machine c.machine = I at hI hcalm ⊢
  cases hglobal : l.global with
  | some name =>
    have hcrosses := crosses_of_begun hlog (hlog.begins ((hlog.global hl name).mp hglobal))
    rw [run_resolve_of_global I c hl hglobal, run_fetch_eq hcrosses]
    exact .fetched hglobal (chronicle_fetched hcalm h)
  | none =>
    cases hpending : l.pending with
    | some name =>
      rw [run_resolve_of_pending I c hl hglobal hpending]
      exact .waiting hglobal hpending
    | none => exact resolves_of_idle h hlog hI hl ⟨hglobal, hpending⟩

end SourceLambda

namespace Session

open SourceLambda (Resolves fetched)

variable {w : Session}

/-- **A lambda written as source text is defined once.** A run starts before the first lambda is
kept. Whatever it does goes on with its chronicle, and every resolution, in any context, adds to it
what it does. A lambda that has been defined is read from the namespace, where nothing is run; a
scripted interpreter gives what the name is bound to, or the error that it is not bound. A lambda
that is being defined waits for itself. Any other lambda is defined under the name that is drawn
next: it has that name if the definition succeeds, and is as it was if not. So a lambda is defined
with success once at most, it has the name under which that was, and it keeps the name. The names
are drawn in order, no name is drawn twice before the counter starts again, and no two lambdas have
one name. -/
theorem defined_once (hs : w.sources = #[]) (hi : w.sourceIds = ⟨Ident.sourceStem, 0⟩) :
    (∀ u log, Chronicle w log u →
      (∀ N c n l, u.sources[n]? = some l →
        Resolves w log ((Recursion.level N).machine c.machine) c n l u
          ((SourceLambda.resolve ((Recursion.level N).machine c.machine) c n).run u).1
          ((SourceLambda.resolve ((Recursion.level N).machine c.machine) c n).run u).2) ∧
      (∀ N c k name, c.machine = .scripted k →
        fetched ((Recursion.level N).machine c.machine) c name u =
          (.ok (match (u.outside.store.binding? c.globals name.text).join with
            | some r => .ok r
            | none => .error (.evaluation ("global " ++ name.text ++ " is not defined"))), u)) ∧
      (∀ N s, ∃ inside, Chronicle w (log ++ inside) ((Run.step (.level N) s).run u).2) ∧
      (∀ N t (p : Program t),
        ∃ inside, Chronicle w (log ++ inside) ((Run.program (.level N) p).run u).2) ∧
      ∀ N k f args,
        ∃ inside, Chronicle w (log ++ inside) (((Recursion.level N).call k f args).run.run u).2) ∧
    ∀ v log, Chronicle w log v →
      (∀ n, log.countP (Milestone.defines n) ≤ 1) ∧
      (∀ (n : Nat) (l : SourceLambda) (name : Ident), v.sources[n]? = some l →
        (l.global = some name ↔ .ended n name true ∈ log) ∧
        ∀ u log', Chronicle v log' u → l.global = some name →
          ∃ l' : SourceLambda, u.sources[n]? = some l' ∧ l'.source = l.source ∧
            l'.global = some name) ∧
      drawnNames log = (List.range (drawnNames log).length).map nthName ∧
      ((drawnNames log).length ≤ 2 ^ 64 → (drawnNames log).Nodup ∧
        ∀ (n n' : Nat) (l l' : SourceLambda) (name : Ident), v.sources[n]? = some l →
          v.sources[n']? = some l' → l.global = some name → l'.global = some name → n = n') := by
  refine ⟨fun u log h => ?_, fun v log h => ?_⟩
  · have hP := stable_chronicle u
    have longer {v : Session} (h' : ∃ inside, Chronicle u inside v) :
        ∃ inside, Chronicle w (log ++ inside) v := h'.imp fun _ h' => h.trans h'
    refine ⟨fun N c n l hl => SourceLambda.resolves h (h.logged hs hi) N c hl,
      fun N c k name hm => ?_, fun N s => longer ?_, fun N t p => longer ?_,
      fun N k f args => longer ?_⟩
    · rw [hm]
      exact SourceLambda.fetched_scripted _ k
    · exact hP.step (hP.level N) s (s.obeys_of_direct trivial) u ⟨[], .start u⟩
    · exact hP.program (hP.level N) p (p.obeys_of_direct trivial) u ⟨[], .start u⟩
    · exact (hP.level N).call k f args u ⟨[], .start u⟩
  · have hlog := h.logged hs hi
    refine ⟨hlog.once, fun n l name hl =>
      ⟨hlog.global hl name, fun u log' h' hglobal => h'.global_eq hl hglobal⟩, hlog.drawn,
      fun hlt => ⟨hlog.nodup hlt, fun n n' l l' name hl hl' hglobal hglobal' => ?_⟩⟩
    exact hlog.eq_of_begun hlt (hlog.begins ((hlog.global hl name).mp hglobal))
      (hlog.begins ((hlog.global hl' name).mp hglobal'))

/-- An interpreter is bound and a context is opened over a new namespace. -/
def opened : Session :=
  Session.taking 0 [.runtime (.make "main" true), .runtime (.install "main"),
    .context "main" (.open .isolated "main" none none)] Trial.fresh

/-- The context over the main namespace. -/
def main : Context := { number := 1, machine := .scripted 0, globals := 0 }

/-- A lambda that is defined in one namespace is not found in another one, where nothing is run. -/
theorem defined_once_elsewhere :
    opened.sources = #[] ∧ opened.sourceIds = ⟨Ident.sourceStem, 0⟩ ∧
      ∃ inside v, SourceLambda.resolved " x: x*2" = (.ok (.ok 3), v) ∧
        Chronicle opened (.begun 0 ⟨"lmbstr0"⟩ :: (inside ++ [.ended 0 ⟨"lmbstr0"⟩ true])) v ∧
        (SourceLambda.resolve ((Recursion.level 0).machine main.machine) main 0).run v =
          (.ok (.error (.evaluation "global lmbstr0 is not defined")), v) := by
  obtain ⟨hruns, -⟩ := defined_once (w := opened) rfl rfl
  have hkept : Chronicle opened [] (SourceLambda.kept " x: x*2") :=
    .kept (.start opened) ⟨rfl, rfl⟩
  have hanswer : ((SourceLambda.resolved " x: x*2").1.toOption.bind Except.toOption) = some 3 := by
    decide +kernel
  have hunbound : ((SourceLambda.resolved " x: x*2").2.outside.store.binding? 0 "lmbstr0").isSome =
      false := by
    decide +kernel
  have hfirst : Resolves opened [] _ SourceLambda.isolated 0 _ _
      (SourceLambda.resolved " x: x*2").1 (SourceLambda.resolved " x: x*2").2 :=
    (hruns _ _ hkept).1 0 SourceLambda.isolated 0 _ rfl
  refine ⟨rfl, rfl, ?_⟩
  generalize SourceLambda.resolved " x: x*2" = r at hanswer hunbound hfirst ⊢
  obtain ⟨out, v⟩ := r
  dsimp only at hanswer hunbound hfirst
  cases hfirst with
  | fetched hglobal => cases hglobal
  | waiting _ hpending => cases hpending
  | endless => cases hanswer
  | failed _ _ _ hout =>
    rcases hout with rfl | ⟨_, rfl⟩
    · cases hanswer
    · cases hanswer
  | @defined inside x _ hl h =>
    obtain ⟨answer, hread⟩ : ∃ answer, fetched ((Recursion.level 0).machine
        SourceLambda.isolated.machine) SourceLambda.isolated
        (SourceLambda.kept " x: x*2").sourceIds.next.1 x = (.ok answer, x) :=
      ⟨_, SourceLambda.fetched_scripted _ 0⟩
    rw [hread] at h hanswer hunbound ⊢
    cases answer with
    | error => cases hanswer
    | ok r =>
      obtain rfl : r = 3 := Option.some.inj hanswer
      refine ⟨inside, x, rfl, h, ?_⟩
      have hbinding : x.outside.store.binding? main.globals
          (SourceLambda.kept " x: x*2").sourceIds.next.1.text = none :=
        Option.not_isSome_iff_eq_none.mp (Bool.eq_false_iff.mp hunbound)
      obtain ⟨hresolves, hreads, -⟩ := hruns x _ h
      have hsecond := hresolves 0 main 0 _ hl
      have hmissing := hreads 0 main 0 (SourceLambda.kept " x: x*2").sourceIds.next.1 rfl
      rw [hbinding] at hmissing
      generalize (SourceLambda.resolve ((Recursion.level 0).machine main.machine) main 0).run x = q
        at hsecond ⊢
      obtain ⟨out, v⟩ := q
      dsimp only at hsecond
      cases hsecond with
      | fetched hglobal =>
        cases hglobal
        exact hmissing
      | waiting hglobal => cases hglobal
      | endless hidle => cases hidle.1
      | failed hidle => cases hidle.1
      | defined hidle => cases hidle.1

end Session

end ClosureBridge
