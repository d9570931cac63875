import ClosureBridge.Proofs.Session.Operations

/-!
# What the library does to its state

Every computation of the library but the router, over interpreters that keep a lasting property,
keeps it. The router counts, so it keeps what is stable.

## Main statements

* `SourceLambda.run_resolve_of_idle`: how a lambda written as source text is defined.
* `Session.Lasting.operations`: the operations of a context keep what lasts.
* `Session.Lasting.resolve`, `Session.Lasting.begin`: so do a lambda written as source text and the
  set-up of a session.
* `Session.Stable.dispatch`: a call of the router keeps what is stable.
-/

namespace ClosureBridge

/-- A text that is accepted is neither defined nor being defined. -/
theorem SourceLambda.isIdle_of_check {source : String} {l : SourceLambda}
    (h : check source = .ok l) : l.IsIdle := by
  unfold check at h
  dsimp only at h
  split at h
  · cases h
  · split at h
    · cases h
    · cases h
      exact ⟨rfl, rfl⟩

namespace SourceLambda

variable (I : Interpreter Bench.Outside) (c : Context) {w : Session} {n : Nat} {l : SourceLambda}
  {name : Ident}

theorem run_resolve_of_none (hl : w.sources[n]? = none) :
    (resolve I c n).run w = (.ok (.error .missingSeparator), w) := by
  unfold resolve
  rw [Exec.run_get_bind, hl]
  rfl

/-- A lambda that has been defined is fetched. -/
theorem run_resolve_of_global (hl : w.sources[n]? = some l) (hglobal : l.global = some name) :
    (resolve I c n).run w = (fetch I c name).run w := by
  unfold resolve
  rw [Exec.run_get_bind, hl]
  dsimp only
  rw [hglobal]

/-- A lambda that is being defined waits for itself. -/
theorem run_resolve_of_pending (hl : w.sources[n]? = some l) (hglobal : l.global = none)
    (hpending : l.pending = some name) :
    (resolve I c n).run w = (.error .exhausted, w) := by
  unfold resolve
  rw [Exec.run_get_bind, hl]
  dsimp only
  rw [hglobal, hpending]
  rfl

/-- Any other lambda is defined. -/
theorem run_resolve_of_idle (hl : w.sources[n]? = some l) (hidle : l.IsIdle) :
    (resolve I c n).run w =
      match (define I c w.sourceIds.next.1 l.source).catchPanic.run (w.attempting n) with
      | (.ok made, v) =>
        (conclude I c w.sourceIds.next.1 made).run (Session.settled v n (succeeded made))
      | (.error stop, v) => (.error stop, v) := by
  have hattempt : (attempt n : Exec Session Ident).run w =
      (.ok w.sourceIds.next.1, w.attempting n) := rfl
  unfold resolve
  rw [Exec.run_get_bind, hl]
  dsimp only
  rw [hidle.1, hidle.2]
  dsimp only
  rw [Exec.run_bind_of_ok hattempt, Exec.run_bind]
  rcases (define I c w.sourceIds.next.1 l.source).catchPanic.run (w.attempting n) with
    ⟨stop | made, v⟩
  · rfl
  · rfl

/-- A definition that fails leaves a lambda as it was, and one that succeeds gives it its name. -/
theorem ended_begun (hidle : l.IsIdle) (name : Ident) (ok : Bool) :
    (l.begun name).ended ok = if ok then { l with global := some name } else l := by
  cases l
  obtain ⟨rfl, rfl⟩ := hidle
  cases ok <;> rfl

end SourceLambda

namespace Session

open Exec (Keeps)

variable {direct : Prop} {P : Session → Prop} {I : Interpreter Bench.Outside}
  {machine : MachineId → Interpreter Bench.Outside}

namespace Lasting

/-! ### The router -/

theorem current : Keeps P (Dispatch.current : Exec Session _) := by
  unfold Dispatch.current
  refine Keeps.bind .get fun w => ?_
  split <;> exact .pure _

theorem parseIn (hP : Lasting direct P) (hI : I.Keeps P) (args : Option Ref) (kind : InputKind) :
    Keeps P (Marshal.parseIn I args kind).run := by
  refine hP.quiet ?_
  unfold Marshal.parseIn
  refine Script.Emits.bind (hI.calm.parseTuple _ _) fun parts => ?_
  split
  · exact .pure _
  · split
    · exact .pure _
    · exact .bind (hI.calm.raiseRuntimeError _) fun _ => .pure _

theorem buildOut (hP : Lasting direct P) (hI : I.Keeps P) (v : HostValue) (target : OutputKind) :
    Keeps P (Marshal.buildOut I v target).run := by
  refine hP.quiet ?_
  unfold Marshal.buildOut
  split
  · exact hI.calm.buildValue _
  · exact .bind (hI.calm.raiseRuntimeError _) fun _ => .pure _

/-! ### Contexts -/

theorem ofGlobals (hP : Lasting direct P) (m : MachineId) (globals : Option Ref) :
    Keeps P (Context.ofGlobals m globals : Exec Session _) := by
  cases globals with
  | none => exact .pure _
  | some globals =>
    refine .modifyGet fun w hw =>
      hP.change (.capturing _) ⟨.refl _, fun hi => ?_⟩ rfl (.of_eq rfl rfl rfl) hw
    rw [Array.getElem?_push, if_neg (Nat.ne_of_lt (Array.getElem?_eq_some_iff.mp hi).1), hi]

theorem ofMachine (hP : Lasting direct P) (hI : ∀ m, (machine m).Keeps P) (m : MachineId) :
    Keeps P (Context.ofMachine machine m) :=
  .bind (hP.quiet (hI m).calm.mainDict) fun _ => hP.ofGlobals m _

theorem main (hP : Lasting direct P) (hI : ∀ m, (machine m).Keeps P) :
    Keeps P (Context.main machine) := by
  unfold Context.main
  refine Keeps.bind current fun bound => ?_
  split
  · exact .pure _
  · exact hP.ofMachine hI _

theorem isolated (hP : Lasting direct P) (hI : ∀ m, (machine m).Keeps P) (m : MachineId) :
    Keeps P (Context.isolated machine m) :=
  .bind (hP.quiet (hI m).calm.newDict) fun _ => hP.ofGlobals m _

/-- A context that does not capture output may begin to. Putting the buffer in place does not make
it begin, so nothing that is captured is forgotten. -/
theorem start (hP : Lasting direct P) (hI : I.Keeps P) (c : Context) :
    Keeps P (Capture.start I c) := by
  intro w hw
  unfold Capture.start
  rw [Exec.run_bind_of_ok (Context.run_isCapturing c w)]
  split
  · exact hw
  · next hc =>
    have hv := hP.steady.install hI.calm c (hI.runString _ _) w hw
    have hcapturing : ((Capture.install I c).run w).2.capturing = w.capturing :=
      (Steady.capturing w.capturing).install hI.calm c (hI.installs w.capturing _) w rfl
    rw [Exec.run_bind]
    generalize (Capture.install I c).run w = r at hv hcapturing ⊢
    obtain ⟨_ | installed, v⟩ := r
    · exact hv
    · refine hP.change (.capturing _) ⟨.refl _, fun {i} hi => ?_⟩ rfl (.of_eq rfl rfl rfl) hv
      have hi' : w.capturing[i]? = some true := by rw [← hi, ← hcapturing]
      have hne : c.number ≠ i := by
        rintro rfl
        rw [hi'] at hc
        exact hc rfl
      change (v.capturing.setIfInBounds c.number installed)[i]? = some true
      rw [Array.getElem?_setIfInBounds_ne hne, hi]

/-- What lasts is kept by the operations of a context. -/
theorem operations (hP : Lasting direct P) (hI : I.Keeps P) (c : Context) :
    Context.Keeps P I c where
  execute source mode _ := hP.steady.execute hI.calm c (hI.runString source mode) fun _ => trivial
  compiles := hP.steady.compiles hI.calm
  getGlobal := hP.steady.getGlobal hI.calm c
  strOf := hP.steady.strOf hI.calm
  reprOf := hP.steady.reprOf hI.calm
  discard := hP.steady.discard hI.calm
  start := hP.start hI c

theorem runSimple (hI : I.Keeps P) (source : String) : Keeps P (Context.runSimple I source) := by
  unfold Context.runSimple
  split
  · exact hI.runSimple _
  · exact .pure _

/-! ### Lambdas written as source text -/

theorem keep (hP : Lasting direct P) {l : SourceLambda} (hl : l.IsIdle) :
    Keeps P (SourceLambda.keep l : Exec Session Nat) :=
  .modifyGet fun w hw => hP.change (.kept hl) (.of_eq rfl rfl) rfl (.kept w l) hw

theorem define (hP : Lasting direct P) (hI : I.Keeps P) (c : Context) (name : Ident)
    (source : String) : Keeps P (SourceLambda.define I c name source) := by
  unfold SourceLambda.define
  refine Keeps.bind ((hP.operations hI c).execute _ _ _) fun r => ?_
  split
  · exact .pure _
  · exact .bind ((hP.operations hI c).discard _) fun _ => .pure _

theorem fetch (hP : Lasting direct P) (hI : I.Keeps P) (c : Context) (name : Ident) :
    Keeps P (SourceLambda.fetch I c name) := by
  unfold SourceLambda.fetch
  refine Keeps.bind ((hP.operations hI c).getGlobal _) fun r => ?_
  split <;> exact .pure _

theorem conclude (hP : Lasting direct P) (hI : I.Keeps P) (c : Context) (name : Ident)
    (made : Except Payload (Except LambdaError Unit)) :
    Keeps P (SourceLambda.conclude I c name made) := by
  unfold SourceLambda.conclude
  split
  · exact .panic _
  · exact .pure _
  · exact hP.fetch hI c name

/-- The definition that a resolution ends is the one that it has begun. -/
theorem resolve (hP : Lasting direct P) (hI : I.Keeps P) (c : Context) (n : Nat) :
    Keeps P (SourceLambda.resolve I c n) := by
  intro w hw
  cases hl : w.sources[n]? with
  | none =>
    rw [SourceLambda.run_resolve_of_none I c hl]
    exact hw
  | some l =>
    cases hglobal : l.global with
    | some name =>
      rw [SourceLambda.run_resolve_of_global I c hl hglobal]
      exact hP.fetch hI c name w hw
    | none =>
      cases hpending : l.pending with
      | some name =>
        rw [SourceLambda.run_resolve_of_pending I c hl hglobal hpending]
        exact hw
      | none =>
        have hidle : l.IsIdle := ⟨hglobal, hpending⟩
        have hbegun : P (w.attempting n) :=
          hP.change (.begun hl hidle) (.of_eq rfl rfl) rfl (.attempting hl hidle) hw
        have hmade := (hP.define hI c w.sourceIds.next.1 l.source).catchPanic _ hbegun
        rw [SourceLambda.run_resolve_of_idle I c hl hidle]
        generalize (SourceLambda.define I c w.sourceIds.next.1 l.source).catchPanic.run
          (w.attempting n) = r at hmade ⊢
        obtain ⟨stop | made, v⟩ := r
        · exact hmade
        · exact hP.conclude hI c _ made _ (hP.settling _ hw hl hidle hmade)

/-! ### The binding -/

theorem isBound : Keeps P (Binding.isBound : Exec Session Bool) :=
  .bind .get fun _ => .pure _

theorem bindMachine (hP : Lasting direct P) (m : MachineId) :
    Keeps P (Binding.install m : Exec Session Bool) := by
  refine Keeps.modifyGet fun w hw => ?_
  split
  · exact hw
  · next h => exact hP.change (.bound m h) (.of_eq rfl rfl) rfl (.of_eq rfl rfl rfl) hw

theorem ofImage (hP : Lasting direct P)
    {resolve : Image → Exec Session (Except BindError MachineId)}
    (hr : ∀ image, Keeps P (resolve image)) (image : Image) :
    Keeps P (Binding.ofImage resolve image) := by
  unfold Binding.ofImage
  refine Keeps.bind isBound fun bound => ?_
  split
  · exact .pure _
  · refine Keeps.bind (hr image) fun m => ?_
    split
    · exact .pure _
    · exact .bind (hP.bindMachine _) fun _ => .pure _

theorem load (hP : Lasting direct P) (hI : ∀ m, (machine m).Keeps P)
    {resolve : Image → Exec Session (Except BindError MachineId)}
    (hr : ∀ image, Keeps P (resolve image)) (config : RuntimeConfig)
    (environment : Option String) (shelf : Shelf) :
    Keeps P (Binding.load machine resolve config environment shelf) := by
  unfold Binding.load
  refine Keeps.bind .get fun w => ?_
  split
  · exact .pure _
  · split
    · exact .pure _
    · refine Keeps.bind (hP.ofImage hr _) fun done => ?_
      split
      · exact .pure _
      · refine Keeps.bind current fun bound => ?_
        split
        · exact .pure _
        · split
          · exact .bind (hP.quiet (hI _).calm.ensureStarted) fun _ => .pure _
          · exact .pure _

theorem openLog (date : String) (output : LogOutput) :
    Keeps P (Session.openLog date output : Exec Session Unit) := by
  unfold Session.openLog
  split
  · exact .pure _
  · exact .panic _

theorem begin (hP : Lasting direct P) (hI : ∀ m, (machine m).Keeps P)
    {resolve : Image → Exec Session (Except BindError MachineId)}
    (hr : ∀ image, Keeps P (resolve image)) (config : Config) (date : String)
    (environment : Option String) (shelf : Shelf) :
    Keeps P (Session.begin machine resolve config date environment shelf) := by
  unfold Session.begin
  split
  · exact .pure _
  · refine Keeps.bind (openLog _ _) fun _ => ?_
    refine Keeps.bind (hP.load hI hr _ _ _) fun bound => ?_
    split
    · exact .pure _
    · refine Keeps.bind (hP.main hI) fun c => ?_
      split <;> exact .pure _

/-! ### What is counted -/

end Lasting

namespace Stable

theorem count (hP : Stable direct P) (f : Stats → Stats) :
    Keeps P (World.count f : Exec Session Unit) :=
  fun _ hw => hP.counted f hw

theorem miss (hP : Stable direct P) (hI : I.Keeps P) : Keeps P (Dispatch.miss I) :=
  .bind (hP.count _) fun _ => hP.quiet (hI.calm.buildValue _)

theorem argumentError (hP : Stable direct P) : Keeps P (Dispatch.argumentError : Exec Session _) :=
  .bind (hP.count _) fun _ => .pure _

/-- The closure that the router finds obeys, so running it keeps what is stable. -/
theorem route (hP : Stable direct P) (hI : ∀ m, (machine m).Keeps P)
    {host : Program .value → Exec Session HostValue}
    (hh : ∀ p : Program .value, p.Obeys direct → Keeps P (host p)) (self args : Option Ref) :
    Keeps P (Dispatch.route machine host self args) := by
  unfold Dispatch.route
  refine Keeps.bind Lasting.current fun bound => ?_
  split
  · refine Keeps.bind (hP.quiet ((hI _).calm.textOf _)) fun text => ?_
    split
    · refine Keeps.bind_get fun w hw => ?_
      split
      · next shape call hget =>
        have hcall : call.Obeys direct := hP.closures hw _ _ _ hget
        refine Keeps.bind (hP.parseIn (hI _) _ _) (fun arguments => ?_) w hw
        split
        · refine Keeps.bind (hh _ (hcall _)) fun value => ?_
          refine Keeps.bind (hP.buildOut (hI _) _ _) fun out => ?_
          split
          · exact .pure _
          · exact hP.argumentError
        · exact hP.argumentError
      · exact hP.miss (hI _) w hw
    · exact hP.miss (hI _)
  · exact .pure _

theorem dispatch (hP : Stable direct P) (hI : ∀ m, (machine m).Keeps P)
    {host : Program .value → Exec Session HostValue}
    (hh : ∀ p : Program .value, p.Obeys direct → Keeps P (host p)) (self args : Option Ref) :
    Keeps P (Dispatch.dispatch machine host self args) := by
  unfold Dispatch.dispatch
  refine Keeps.bind (hP.count _) fun _ => ?_
  refine Keeps.bind (hP.route hI hh self args).catchPanic fun r => ?_
  split
  · exact .pure _
  · refine Keeps.bind (hP.count _) fun _ => ?_
    refine Keeps.bind Lasting.current fun bound => ?_
    split
    · exact .bind (hP.quiet ((hI _).calm.raiseRuntimeError _)) fun _ => .pure _
    · exact .pure _

end Stable

end Session

end ClosureBridge
