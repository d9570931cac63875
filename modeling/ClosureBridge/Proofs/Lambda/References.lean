import ClosureBridge.Proofs.Interpreter.References
import ClosureBridge.Proofs.Lambda.Freshness

/-!
# References are given back

The operations of the library take references from the interpreter and give them back, on every path
that they can leave by. The one reference that outlives an operation is that of an exposed closure
to its callable: the lambda owns it until it is released.

## Main definitions

* `Code.Honest`: what running source comes to gives back all that it takes.
* `Code.Plays`: a run of operations, with any code of the host in between.
* `Code.Nested`: code of the host that plays, to any depth of nesting.

## Main statements

* `Code.settles_create`, `Code.settles_release`, `Code.settles_runCell`, …: each operation gives
  back all that it takes.
* `Code.Plays.settles`: so does a run of them.
* `Code.references_balance`: what is held is what the unreleased lambdas own.
-/

namespace ClosureBridge

open Carries (lending taking giving)

namespace Code

variable {ι : Type} {base : MachineId → Interpreter ι} {X : Code ι} {m : MachineId} {c : Context}

/-- What running source comes to gives back all that it takes. -/
structure Honest (X : Code ι) : Prop where
  run : ∀ m source mode scope, Settles (X.run m source mode scope)
  runSimple : ∀ m source, Settles (X.runSimple m source)

/-! ### Operations that take nothing -/

section

variable (hand : Multiset Holding)

theorem carries_ensureBuiltins :
    Carries hand (fun _ => hand) (Context.ensureBuiltins (X.counted base m) c) := by
  unfold Context.ensureBuiltins
  refine .bind (lending _ hand) fun bound => ?_
  split
  · refine .bind (lending _ hand) fun builtins => ?_
    split
    · refine .bind (lending _ hand) fun stored => ?_
      split
      · exact .pure rfl
      · exact lending _ hand
    · exact .pure rfl
  · exact .pure rfl

theorem carries_reportError (showErrors : Bool) :
    Carries hand (fun _ => hand) (Context.reportError (X.counted base m) showErrors) := by
  unfold Context.reportError
  refine .bind (lending _ hand) fun pending => ?_
  split
  · split
    · exact lending _ hand
    · exact lending _ hand
  · exact .pure rfl

theorem carries_getGlobal (name : String) :
    Carries hand (fun _ => hand) (Context.getGlobal (X.counted base m) c name) := by
  unfold Context.getGlobal
  split
  · exact lending _ hand
  · exact .pure rfl

theorem carries_strOf (object : Option Ref) :
    Carries hand (fun _ => hand) (Context.strOf (X.counted base m) object) := by
  unfold Context.strOf
  refine .bind (lending _ hand) fun text => ?_
  split
  · exact .bind (lending _ hand) fun _ => .pure rfl
  · exact .pure rfl

theorem carries_reprOf (object : Option Ref) :
    Carries hand (fun _ => hand) (Context.reprOf (X.counted base m) object) := by
  unfold Context.reprOf
  refine .bind (lending _ hand) fun text => ?_
  split
  · exact .bind (lending _ hand) fun _ => .pure rfl
  · exact .pure rfl

theorem carries_isCapturing :
    Carries hand (fun _ => hand) (c.isCapturing : Exec (World (Counted ι)) Bool) :=
  .bind .get fun _ => .pure rfl

theorem carries_setCapturing (b : Bool) :
    Carries hand (fun _ => hand) (c.setCapturing b : Exec (World (Counted ι)) Unit) :=
  .modifyGet (fun _ => rfl) fun _ => rfl

end

/-- An object that is in hand is given back. -/
theorem carries_discard (r : Option Ref) :
    Carries (Move.worth m r) (fun _ => 0) (Context.discard (X.counted base m) r) := by
  have h := giving ((base m).decref r) m r 0
  rwa [Multiset.add_zero] at h

/-! ### Operations that give back what they take -/

theorem settles_compiles (source : String) (mode : Mode) :
    Settles (Context.compiles (X.counted base m) source mode) := by
  unfold Context.compiles
  split
  · refine .bind (taking _ m id 0) fun code => ?_
    split
    · exact .bind (lending _ 0) fun _ => .pure rfl
    · exact .bind (giving _ m _ 0) fun _ => .pure rfl
  · exact .pure rfl

section

variable (hX : X.Honest)
include hX

theorem carries_runString (source : String) (mode : Mode) (scope : Option Ref) :
    Carries 0 (Move.worth m) ((X.counted base m).runString source mode scope) := by
  refine .bind (hX.run m source mode scope) fun r => ?_
  exact .bind (.record m r 0) fun _ => .pure (Multiset.add_zero _)

/-- What running source gives is in hand. -/
theorem carries_execute (source : String) (mode : Mode) (showErrors : Bool) :
    Carries 0 (Move.worth m) (c.execute (X.counted base m) source mode showErrors) := by
  unfold Context.execute
  split
  · refine .bind (carries_ensureBuiltins 0) fun _ => ?_
    refine .bind (carries_runString hX source mode _) fun r => ?_
    split
    · exact .bind (carries_reportError (Move.worth m r) _) fun _ => .pure rfl
    · exact .pure rfl
  · exact .pure rfl

/-- Running source and giving its result back. -/
theorem settles_install : Settles (Capture.install (X.counted base m) c) := by
  unfold Capture.install
  refine .bind (carries_getGlobal 0 _) fun bound => ?_
  split
  · exact .pure rfl
  · refine .bind (carries_execute hX _ _ _) fun r => ?_
    split
    · exact .bind (carries_discard _) fun _ => .pure rfl
    · exact .pure rfl

theorem settles_start : Settles (Capture.start (X.counted base m) c) := by
  unfold Capture.start
  refine .bind (carries_isCapturing 0) fun capturing => ?_
  split
  · exact .pure rfl
  · refine .bind (settles_install hX) fun installed => ?_
    exact .bind (carries_setCapturing 0 _) fun _ => .pure rfl

theorem settles_read (method : String) :
    Settles (Capture.read (X.counted base m) c method) := by
  unfold Capture.read
  refine .bind (carries_execute hX _ _ _) fun r => ?_
  split
  · exact .pure rfl
  · refine .bind (carries_strOf _ _) fun text => ?_
    exact .bind (carries_discard _) fun _ => .pure rfl

theorem settles_drain : Settles (Capture.drain (X.counted base m) c) := by
  unfold Capture.drain
  refine .bind (carries_isCapturing 0) fun capturing => ?_
  split
  · refine .bind (settles_read hX _) fun text => ?_
    refine .bind (carries_execute hX _ _ _) fun r => ?_
    cases r with
    | some r => exact .bind (carries_discard _) fun _ => .pure rfl
    | none => exact .pure rfl
  · exact .pure rfl

theorem settles_all : Settles (Capture.all (X.counted base m) c) := by
  unfold Capture.all
  refine .bind (carries_isCapturing 0) fun capturing => ?_
  split
  · exact settles_read hX _
  · exact .pure rfl

/-! ### Cells -/

omit hX in
theorem settles_readLines {marker : Char}
    {handler : String → String → Exec (World (Counted ι)) Directive}
    (hh : ∀ directive argument, Settles (handler directive argument))
    (lines : List (List Char)) : Settles (Cell.read marker handler lines) := by
  induction lines with
  | nil => exact .pure rfl
  | cons line rest ih =>
    unfold Cell.read
    split
    · exact .bind (hh _ _) fun _ => .bind ih fun _ => .pure rfl
    · exact .bind ih fun _ => .pure rfl

omit hX in
theorem settles_splitTail (lines : List (List Char)) :
    Settles (Cell.splitTail (Cell.isExpression (X.counted base m)) lines) := by
  unfold Cell.splitTail
  split
  · exact .pure rfl
  · split
    · refine .bind (settles_compiles _ _) fun b => ?_
      split <;> exact .pure rfl
    · exact .pure rfl

theorem settles_runBody (lines : List (List Char)) :
    Settles (Cell.runBody (X.counted base m) c lines) := by
  unfold Cell.runBody
  dsimp only
  split
  · exact .pure rfl
  · refine .bind (carries_execute hX _ _ _) fun r => ?_
    split
    · exact .bind (carries_discard _) fun _ => .pure rfl
    · exact .pure rfl

theorem settles_runTail (tail : Option (List Char)) :
    Settles (Cell.runTail (X.counted base m) c tail) := by
  unfold Cell.runTail
  split
  · exact .pure rfl
  · refine .bind (carries_execute hX _ _ _) fun r => ?_
    split
    · exact .pure rfl
    · refine .bind (carries_reprOf _ _) fun shown => ?_
      exact .bind (carries_discard _) fun _ => .pure rfl

/-- Running a cell gives back what it takes where its handler does. -/
theorem settles_runCell {handler : String → String → Exec (World (Counted ι)) Directive}
    (hh : ∀ directive argument, Settles (handler directive argument))
    (source : String) (marker : Char) :
    Settles (Cell.run (X.counted base m) c source marker handler) := by
  unfold Cell.run
  refine .bind (settles_start hX) fun _ => .bind (settles_drain hX) fun _ => ?_
  refine .bind (settles_readLines hh _) fun reading => ?_
  refine .bind (settles_splitTail _) fun pieces => ?_
  refine .bind (settles_runBody hX _) fun fine => ?_
  split
  · exact .bind (settles_runTail hX _) fun _ => .bind (settles_drain hX) fun _ => .pure rfl
  · exact .bind (.pure rfl) fun _ => .bind (settles_drain hX) fun _ => .pure rfl

/-! ### Lambdas written as source text -/

omit hX in
theorem settles_fetch (name : Ident) :
    Settles (SourceLambda.fetch (X.counted base m) c name) := by
  unfold SourceLambda.fetch
  refine .bind (carries_getGlobal 0 _) fun r => ?_
  split <;> exact .pure rfl

theorem settles_define (name : Ident) (source : String) :
    Settles (SourceLambda.define (X.counted base m) c name source) := by
  unfold SourceLambda.define
  refine .bind (carries_execute hX _ _ _) fun r => ?_
  split
  · exact .pure rfl
  · exact .bind (carries_discard _) fun _ => .pure rfl

theorem settles_resolve (n : Nat) :
    Settles (SourceLambda.resolve (X.counted base m) c n) := by
  have hattempt : Settles (SourceLambda.attempt n : Exec (World (Counted ι)) Ident) :=
    Aside.settles fun _ => ⟨rfl, rfl⟩
  have hsettle (ok : Bool) : Settles (SourceLambda.settle n ok : Exec (World (Counted ι)) Unit) :=
    Aside.settles fun _ => ⟨rfl, rfl⟩
  unfold SourceLambda.resolve
  refine .bind .get fun w => ?_
  split
  · exact .pure rfl
  · split
    · exact settles_fetch _
    · exact Aside.settles fun _ => ⟨rfl, rfl⟩
    · refine .bind hattempt fun name => .bind (settles_define hX _ _).catchPanic fun made => ?_
      refine .bind (hsettle _) fun _ => ?_
      unfold SourceLambda.conclude
      split
      · exact Aside.settles fun _ => ⟨rfl, rfl⟩
      · exact .pure rfl
      · exact settles_fetch _

end

/-! ### Exposing and releasing -/

/-- A lambda that is added takes its callable out of hand. -/
theorem carries_push {α : Type} {l : Lambda} {callable : Ref} (hmachine : l.machine = m)
    (hcallable : l.callable = callable) (hd : l.descriptor.isSome = true)
    {f : World (Counted ι) → α × World (Counted ι)}
    (hlambdas : ∀ w, (f w).2.lambdas = w.lambdas.push l)
    (houtside : ∀ w, (f w).2.outside = w.outside) :
    Carries (Move.worth m (some callable)) (fun _ => 0)
      (modifyGet f : Exec (World (Counted ι)) α) := by
  refine ⟨fun {w₀ rest w} hw => ?_⟩
  change Owing w₀ (0 + rest) (f w).2
  obtain ⟨hheld, hfollows, hprefix⟩ := hw
  obtain ⟨d, hd⟩ := Option.isSome_iff_exists.mp hd
  have hl : l.owned? = some ⟨m, callable⟩ := by
    rw [Lambda.owned?, hd, Option.map_some, hmachine, hcallable]
  refine ⟨?_, ?_, ?_⟩
  · rw [InHand, hlambdas, houtside, Lambda.owned_push hl, hheld, Move.worth]
    simp [Multiset.singleton_add]
  · rw [hlambdas]
    exact hfollows.push l
  · rwa [houtside]

/-- Exposing a closure gives back what it takes, but for the callable of a lambda that is added. -/
theorem settles_create (id : Ident) (shape : Shape) (call : Closure) :
    Settles (Lambda.create (X.counted base) m id shape call) := by
  unfold Lambda.create
  refine .bind (taking _ m (fun text : Except BindError _ => text.toOption.join) 0)
    fun text => ?_
  split
  · exact .pure rfl
  · exact .bind (lending _ 0) fun _ => .pure rfl
  · next self =>
    refine .bind (.modifyGet (fun w => ?_) fun w => ?_) fun registered => ?_
    · split <;> rfl
    · split <;> rfl
    · split
      · exact .bind (giving _ m (some self) 0) fun _ => .pure rfl
      · refine .bind (.modifyGet (fun _ => rfl) fun _ => rfl) fun descriptor => ?_
        refine .bind (taking _ m (fun made => made) _) fun made => ?_
        have hself := giving ((base m).decref self) m (some self) (Move.worth m made)
        rw [Multiset.add_zero, Multiset.add_comm]
        refine .bind hself fun _ => ?_
        split
        · refine .bind (lending _ 0) fun _ => ?_
          refine .bind (.modifyGet (fun _ => rfl) fun _ => rfl) fun _ => ?_
          exact .bind (.modifyGet (fun _ => rfl) fun _ => rfl) fun _ => .pure rfl
        · next callable =>
          refine carries_push (l := ⟨id, shape, call, m, callable, some descriptor⟩) rfl rfl rfl
            (fun w => ?_) fun w => ?_
          · rfl
          · rfl

/-- The host of a lambda that is exposed gives its callable out of hand. -/
theorem settles_release (n : Nat) :
    Settles (Lambda.release (X.counted base) n) := by
  refine ⟨fun {w₀ rest w} hw => ?_⟩
  by_cases h : ∃ l d, w.lambdas[n]? = some l ∧ l.descriptor = some d
  · obtain ⟨l, d, hl, hd⟩ := h
    rw [Lambda.run_release (X.counted base) hl hd]
    obtain ⟨hheld, hfollows, hprefix⟩ := hw
    refine ⟨?_, hfollows.release hl, hprefix.trans (List.prefix_append _ _)⟩
    rw [InHand, Lambda.owned_release hl hd, Multiset.add_cons] at hheld
    exact Move.outstanding_given hheld
  · have hreleased : ∀ l, ¬Unreleased w.lambdas n l := by
      rintro l ⟨hl, hd⟩
      obtain ⟨d, hd⟩ := Option.isSome_iff_exists.mp hd
      exact h ⟨l, d, hl, hd⟩
    rw [Lambda.run_release_of_released (X.counted base) hreleased]
    exact hw

/-! ### Runs of operations -/

/-- A run of operations over interpreters with an account, with any code of the host in between.
What that code takes from an interpreter by itself is not in the account. -/
inductive Plays (base : MachineId → Interpreter ι) (X : Code ι) :
    {α : Type} → Exec (World (Counted ι)) α → Prop where
  | aside {α : Type} {p : Exec (World (Counted ι)) α} (h : Aside p) : Plays base X p
  | bind {α β : Type} {p : Exec (World (Counted ι)) α} {f : α → Exec (World (Counted ι)) β}
    (hp : Plays base X p) (hf : ∀ a, Plays base X (f a)) : Plays base X (p >>= f)
  | catchPanic {α : Type} {p : Exec (World (Counted ι)) α} (hp : Plays base X p) :
    Plays base X p.catchPanic
  /-- Source is run, and the host does what it likes with the result. -/
  | source (m : MachineId) (source : String) (mode : Mode) (scope : Option Ref) :
    Plays base X (X.run m source mode scope)
  | simple (m : MachineId) (source : String) : Plays base X (X.runSimple m source)
  | create (m : MachineId) (id : Ident) (shape : Shape) (call : Closure) :
    Plays base X (Lambda.create (X.counted base) m id shape call)
  | release (n : Nat) : Plays base X (Lambda.release (X.counted base) n)
  | compiles (m : MachineId) (source : String) (mode : Mode) :
    Plays base X (Context.compiles (X.counted base m) source mode)
  | start (c : Context) : Plays base X (Capture.start (X.counted base c.machine) c)
  | drain (c : Context) : Plays base X (Capture.drain (X.counted base c.machine) c)
  | all (c : Context) : Plays base X (Capture.all (X.counted base c.machine) c)
  | cell (c : Context) (source : String) (marker : Char)
    {handler : String → String → Exec (World (Counted ι)) Directive}
    (hh : ∀ directive argument, Plays base X (handler directive argument)) :
    Plays base X (Cell.run (X.counted base c.machine) c source marker handler)
  | resolve (c : Context) (n : Nat) :
    Plays base X (SourceLambda.resolve (X.counted base c.machine) c n)

/-- A run of operations gives back what it takes. -/
theorem Plays.settles (hX : X.Honest) {α : Type} {p : Exec (World (Counted ι)) α}
    (h : Plays base X p) : Settles p := by
  induction h with
  | aside h => exact h.settles
  | bind _ _ ihp ihf => exact .bind ihp ihf
  | catchPanic _ ih => exact .catchPanic ih
  | source m source mode scope => exact hX.run m source mode scope
  | simple m source => exact hX.runSimple m source
  | create m id shape call => exact settles_create id shape call
  | release n => exact settles_release n
  | compiles m source mode => exact settles_compiles source mode
  | start c => exact settles_start hX
  | drain c => exact settles_drain hX
  | all c => exact settles_all hX
  | cell c source marker _ ih => exact settles_runCell hX ih source marker
  | resolve c n => exact settles_resolve hX n

namespace Plays

theorem pure {α : Type} (a : α) :
    Plays base X (Pure.pure a : Exec (World (Counted ι)) α) :=
  .aside fun _ => ⟨rfl, rfl⟩

/-- Exposing a closure under a fresh identifier is a run of operations. -/
theorem expose (shape : Shape) (call : Closure) :
    Plays base X (Lambda.expose (X.counted base) shape call) := by
  unfold Lambda.expose
  refine .bind (.aside fun w => ?_) fun bound => ?_
  · rw [Dispatch.current, Exec.run_get_bind]
    split <;> exact ⟨rfl, rfl⟩
  · split
    · exact .pure _
    · exact .bind (.aside fun _ => ⟨rfl, rfl⟩) fun id => .create _ id shape call

/-- A computation with a lambda in scope is a run of operations where the computation is. -/
theorem withRelease {α : Type} {body : Exec (World (Counted ι)) α} (h : Plays base X body)
    (n : Nat) : Plays base X (Lambda.withRelease (X.counted base) n body) := by
  unfold Lambda.withRelease Exec.andFinally
  refine .bind (.catchPanic h) fun outcome => ?_
  have hrelease : Plays base X (do let _ ← Lambda.release (X.counted base) n) :=
    .bind (.release n) fun _ => .pure _
  split
  · exact .bind hrelease fun _ => .pure _
  · exact .bind hrelease fun _ => .aside fun _ => ⟨rfl, rfl⟩

end Plays

/-- Code that cannot be reached: the budget of the run is used up. -/
def spent : Code ι where
  run _ _ _ _ := Exec.exhausted
  runSimple _ _ := Exec.exhausted

/-- Code that runs of operations are put together to, to some depth of nesting. -/
inductive Nested (base : MachineId → Interpreter ι) : Code ι → Prop where
  | bottom : Nested base spent
  | nest {X Y : Code ι} (h : Nested base X)
    (hrun : ∀ m source mode scope, Plays base X (Y.run m source mode scope))
    (hsimple : ∀ m source, Plays base X (Y.runSimple m source)) : Nested base Y

theorem Nested.honest (h : Nested base X) : X.Honest := by
  induction h with
  | bottom =>
    have hstop (α : Type) : Aside (Exec.exhausted : Exec (World (Counted ι)) α) :=
      fun _ => ⟨rfl, rfl⟩
    exact ⟨fun _ _ _ _ => (hstop _).settles, fun _ _ => (hstop _).settles⟩
  | nest _ hrun hsimple ih =>
    exact ⟨fun _ _ _ _ => (hrun _ _ _ _).settles ih, fun _ _ => (hsimple _ _).settles ih⟩

/-- What a computation that gives back what it takes leaves. -/
theorem settled {α : Type} {p : Exec (World (Counted ι)) α} (hp : Settles p)
    {hand : Multiset Holding} {w : World (Counted ι)} (hw : InHand hand w) :
    Owing w hand (p.run w).2 := by
  have hstart : Owing w (0 + hand) w := ⟨by rwa [Multiset.zero_add], .refl, List.prefix_rfl⟩
  have h := hp.run hstart
  rcases hr : p.run w with ⟨_ | a, v⟩
  · rw [hr] at h
    exact h
  · rw [hr] at h
    dsimp only at h
    rwa [Multiset.zero_add] at h

/-- The moves of a run balance with what the lambdas own before and after it. -/
theorem count_moves {w v : World (Counted ι)} {hand : Multiset Holding} (hw : InHand hand w)
    (hv : InHand hand v) {moves : List Move} (hmoves : v.outside.moves = w.outside.moves ++ moves)
    (r : Holding) :
    moves.count (.taken r) + (Lambda.owned w.lambdas).count r =
      moves.count (.given r) + (Lambda.owned v.lambdas).count r := by
  have hbefore := Move.count_taken hw r
  have hafter := Move.count_taken hv r
  rw [hmoves, List.count_append, List.count_append, Multiset.count_add] at hafter
  rw [Multiset.count_add] at hbefore
  omega

/-- **References balance.** Over any interpreters, and whatever code running source comes to, a run
of operations gives back all that it takes, however it ends, but for the callables of the lambdas
that are exposed: what is held is what the host has in hand and what the unreleased lambdas own, and
nothing is given back that is not held. Exposing a closure adds its callable to what is held, and
nothing if it fails. The first release of a lambda gives back its callable and nothing else, and no
later one gives back anything. -/
theorem references_balance (h : Nested base X) :
    (∀ {α : Type} {p : Exec (World (Counted ι)) α}, Plays base X p →
      ∀ {hand w}, InHand hand w →
        InHand hand (p.run w).2 ∧ Lambda.Follows w.lambdas (p.run w).2.lambdas ∧
        ∃ moves, (p.run w).2.outside.moves = w.outside.moves ++ moves ∧
          ∀ r, moves.count (.taken r) + (Lambda.owned w.lambdas).count r =
            moves.count (.given r) + (Lambda.owned (p.run w).2.lambdas).count r) ∧
    (∀ m id shape call {hand w}, InHand hand w →
      ∃ r v, (Lambda.create (X.counted base) m id shape call).run w = (.ok r, v) ∧
        InHand hand v ∧
        match r with
        | .ok n => n = w.lambdas.size ∧ ∃ callable, v.lambdas[n]?.bind Lambda.owned? =
            some ⟨m, callable⟩ ∧
          Lambda.owned v.lambdas = ⟨m, callable⟩ ::ₘ Lambda.owned w.lambdas
        | .error _ => v.lambdas = w.lambdas) ∧
    ∀ n w,
      (∀ l, Unreleased w.lambdas n l →
        ∃ v, (Lambda.release (X.counted base) n).run w = (.ok true, v) ∧
          v.outside.moves = w.outside.moves ++ [.given ⟨l.machine, l.callable⟩] ∧
          v.lambdas[n]? = some { l with descriptor := none }) ∧
      ((∀ l, ¬Unreleased w.lambdas n l) →
        (Lambda.release (X.counted base) n).run w = (.ok false, w)) := by
  refine ⟨fun hp hand w hw => ?_, fun m id shape call hand w hw => ?_, fun n w => ⟨?_, ?_⟩⟩
  · obtain ⟨hv, hfollows, moves, hmoves⟩ := settled (hp.settles h.honest) hw
    exact ⟨hv, hfollows, moves, hmoves.symm, count_moves hw hv hmoves.symm⟩
  · have hcreate : Settles (Lambda.create (X.counted base) m id shape call) :=
      settles_create id shape call
    have hv := (settled hcreate hw).inHand
    obtain ⟨r, v, hrun, hcreated⟩ := Lambda.created_create (X.counted base) m id shape call w
    rw [hrun] at hv
    refine ⟨r, v, hrun, hv, ?_⟩
    cases hcreated with
    | exposed callable o hr =>
      refine ⟨rfl, callable, ?_, Lambda.owned_push rfl⟩
      rw [Array.getElem?_push_size]
      rfl
    | _ => rfl
  · rintro l ⟨hl, hd⟩
    obtain ⟨d, hd⟩ := Option.isSome_iff_exists.mp hd
    refine ⟨_, Lambda.run_release (X.counted base) hl hd, rfl, ?_⟩
    exact Array.getElem?_setIfInBounds_self_of_lt (Array.getElem?_eq_some_iff.mp hl).1
  · exact Lambda.run_release_of_released (X.counted base)

/-! ### A run -/

/-- An interpreter that gives out a new number whenever it builds something. -/
def numbering : MachineId → Interpreter Nat := fun _ => {
  parseTuple := fun _ _ => Pure.pure none
  buildValue := fun _ => modifyGet fun n => (some n, n + 1)
  newText := fun _ => modifyGet fun n => (.ok (some n), n + 1)
  newCallable := fun _ _ => modifyGet fun n => (some n, n + 1)
  textOf := fun _ => Pure.pure none
  strOf := fun _ => Pure.pure none
  reprOf := fun _ => Pure.pure none
  incref := fun _ => Pure.pure ()
  decref := fun _ => Pure.pure ()
  mainDict := modifyGet fun n => (some n, n + 1)
  newDict := modifyGet fun n => (some n, n + 1)
  builtins := Pure.pure none
  dictGet := fun _ _ => Pure.pure none
  dictSet := fun _ _ _ => Pure.pure false
  getAttr := fun _ _ => Pure.pure none
  setAttr := fun _ _ _ => Pure.pure false
  compile := fun _ _ _ => modifyGet fun n => (some n, n + 1)
  errorOccurred := Pure.pure false
  printError := Pure.pure ()
  clearError := Pure.pure ()
  raiseRuntimeError := fun _ => Pure.pure ()
  ensureStarted := Pure.pure ()
  runString := fun _ _ _ => Pure.pure none
  runSimple := fun _ => Pure.pure false }

/-- Code that exposes a closure, for good, and answers with an object. -/
def exposing : Code Nat where
  run m _ _ _ := do
    let _ ← Lambda.create (spent.counted numbering) m ⟨"inner"⟩ ⟨.text, .text⟩ Closure.echo
    return some 100
  runSimple _ _ := return true

theorem nested_exposing : Nested numbering exposing :=
  .nest .bottom (fun m _ _ _ => .bind (.create m _ _ _) fun _ => .pure _) fun _ _ => .pure _

/-- A context that captures output. -/
def listening : Context where
  number := 0
  machine := .scripted 0
  globals := 0

/-- A closure is exposed while source is compiled and output is read. -/
def trial : Exec (World (Counted Nat)) String := do
  let _ ← Lambda.expose (exposing.counted numbering) ⟨.integer, .integer⟩ Closure.echo
  Lambda.withRelease (exposing.counted numbering) 0 do
    let _ ← Context.compiles (exposing.counted numbering (.scripted 0)) "1 +" .eval
    Capture.all (exposing.counted numbering listening.machine) listening

theorem plays_trial : Plays numbering exposing trial := by
  refine .bind (.expose _ _) fun _ => .withRelease ?_ 0
  exact .bind (.compiles _ _ _) fun _ => .all _

/-- The state before it, in which the context captures output. -/
def untried : World (Counted Nat) where
  bound := some (.scripted 0)
  capturing := #[true]
  outside := { outside := 0 }

/-- All that it takes is given back, but for the callable of the lambda that was not released. -/
theorem references_balance_trial :
    Nested numbering exposing ∧ Plays numbering exposing trial ∧ InHand 0 untried ∧
      InHand 0 (trial.run untried).2 ∧
      Lambda.owned (trial.run untried).2.lambdas = {⟨.scripted 0, 4⟩} := by
  have hnone : InHand 0 untried := rfl
  refine ⟨nested_exposing, plays_trial, hnone, ?_, ?_⟩
  · exact ((references_balance nested_exposing).1 plays_trial hnone).1
  · decide +kernel

end Code

end ClosureBridge
