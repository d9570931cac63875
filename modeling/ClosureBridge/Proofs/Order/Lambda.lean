import ClosureBridge.Proofs.Order.Library

/-!
# Lambdas and sessions in an orderly state

## Main statements

* `Exec.Gives.expose`, `Exec.Gives.release`, `Exec.Gives.withRelease`: exposing a closure and
  releasing a lambda leave an orderly state.
* `Exec.Gives.resolve`: the function of a lambda written as source text is there.
* `Exec.Gives.load`, `Exec.Gives.begin`: no interpreter is bound from an image without one.
-/

namespace ClosureBridge

variable {n : Nat} {α : Type}

/-! ### Images without an interpreter -/

namespace Shelf.IsIdle

variable {shelf : Shelf} (h : shelf.IsIdle) {image : Image}
include h

theorem openAt {path : String} (himage : Binding.openAt shelf path = .ok image) :
    ∃ e, Native.Symbols.resolve image = .error e := by
  unfold Binding.openAt at himage
  cases hopen : Image.openPath shelf path with
  | ok image' =>
    rw [hopen] at himage
    cases himage
    exact h.path hopen
  | error e =>
    rw [hopen] at himage
    cases himage

theorem openFirst {names : List String} (himage : Binding.openFirst shelf names = .ok image) :
    ∃ e, Native.Symbols.resolve image = .error e := by
  unfold Binding.openFirst at himage
  split at himage
  · next image' hfind =>
    cases himage
    obtain ⟨name, -, hopen⟩ := List.exists_of_findSome?_eq_some hfind
    cases hname : Image.openName shelf name with
    | ok image' =>
      rw [hname] at hopen
      cases hopen
      exact h.name hname
    | error e =>
      rw [hname] at hopen
      cases hopen
  · cases himage

theorem locate {config : RuntimeConfig} {environment : Option String}
    (himage : Binding.locate config environment shelf = .ok image) :
    ∃ e, Native.Symbols.resolve image = .error e := by
  unfold Binding.locate at himage
  split at himage
  · exact h.openAt himage
  · exact h.openFirst himage

end Shelf.IsIdle

/-- Beginning and ending a definition makes no objects. -/
theorem SourceLambda.gives_modify (i : Nat) (f : SourceLambda → SourceLambda) :
    Exec.Gives n Untold
      (modify fun w => { w with sources := w.sources.modify i f } : Exec Session PUnit) :=
  .modify fun _ hw => ⟨hw.of_eq rfl rfl rfl rfl, rfl⟩

namespace Exec.Gives

/-! ### The binding -/

theorem resolveImage {image : Image} (h : ∃ e, Native.Symbols.resolve image = .error e) :
    Gives n (OfOk MachineId.Within) (Bench.resolve image) := by
  obtain ⟨e, he⟩ := h
  refine modifyGet fun w hw _ => ?_
  rw [he]
  exact ⟨hw, rfl, ofOk_error e⟩

theorem ofImage {image : Image} (h : ∃ e, Native.Symbols.resolve image = .error e) :
    Gives n Untold (Binding.ofImage Bench.resolve image) := by
  unfold Binding.ofImage
  refine bind isBound fun _ _ bound _ => ?_
  split
  · exact pure_untold _
  · refine bind (resolveImage h) fun k _ m hm => ?_
    split
    · exact pure_untold _
    · next m => exact bind (bindMachine (hm m rfl)) fun _ _ _ _ => pure_untold _

section

variable {call : Script.Caller Bench} (hc : call.Gives)
include hc

theorem load (config : RuntimeConfig) (environment : Option String) {shelf : Shelf}
    (hshelf : shelf.IsIdle) :
    Gives n (OfOk MachineId.Within)
      (Binding.load (Bench.machine call) Bench.resolve config environment shelf) := by
  unfold Binding.load
  refine bind_get fun w hw hn => ?_
  split
  · next m hm => exact ⟨hw, Nat.le_refl _, ofOk_ok (ofOk_ok (hw.bound m hm))⟩
  · split
    · exact ⟨hw, Nat.le_refl _, ofOk_ok (ofOk_error _)⟩
    · next image himage =>
      refine bind (ofImage (hshelf.locate himage)) (fun _ _ done _ => ?_) w hw hn
      split
      · exact pure fun _ _ => ofOk_error _
      · refine bind current fun k _ bound hbound => ?_
        split
        · exact pure fun _ _ => ofOk_error _
        · next m =>
          have hm : m.Within k := hbound m rfl
          have hI := Bench.gives_machine hc hm
          split
          · exact bind (quiet hI.ensureStarted) fun _ hk _ _ => pure fun _ hk' =>
              ofOk_ok ((hm.mono hk).mono hk')
          · exact pure fun _ hk => ofOk_ok (hm.mono hk)

theorem begin (config : Config) (date : String) (environment : Option String) {shelf : Shelf}
    (hshelf : shelf.IsIdle) :
    Gives n (OfOk Context.Within)
      (Session.begin (Bench.machine call) Bench.resolve config date environment shelf) := by
  unfold Session.begin
  split
  · exact pure fun _ _ => ofOk_error _
  · next log _ =>
    have hlog {k : Nat} : Gives k Untold (Session.openLog date log.output : Exec Session Unit) := by
      unfold Session.openLog
      split
      · exact pure_untold _
      · exact panic _
    refine bind hlog fun _ _ _ _ => ?_
    refine bind (load hc _ environment hshelf) fun _ _ bound _ => ?_
    split
    · exact pure fun _ _ => ofOk_error _
    · refine bind (main hc) fun k _ c hcontext => ?_
      split
      · exact pure fun _ _ => ofOk_error _
      · next c => exact pure fun _ hk => ofOk_ok ((hcontext c rfl).mono hk)

/-! ### Exposing a closure -/

theorem create {m : MachineId} (hm : m.Within n) (id : Ident) (shape : Shape)
    {closure : Closure} (hclosure : closure.Within n) :
    Gives n Untold (Lambda.create (Bench.machine call) m id shape closure) := by
  have hI := Bench.gives_machine hc hm
  rw [Lambda.create_eq]
  refine bind (quiet (hI.newText _)) fun k hk text htext => ?_
  split
  · exact pure_untold _
  · exact bind (quiet hI.clearError) fun _ _ _ _ => pure_untold _
  · next self =>
    have hself : self < k := refWithin_some.mp (htext _ rfl)
    refine bind (register id shape (hclosure.mono hk)) fun k₁ hk₁ registered _ => ?_
    split
    · exact bind (quiet (hI.decref _)) fun _ _ _ _ => pure_untold _
    · have hself : self < k₁ := Nat.lt_of_lt_of_le hself hk₁
      unfold Lambda.buildCallable
      refine bind (acquireDescriptor id) fun k₂ hk₂ d _ => ?_
      have hself : self < k₂ := Nat.lt_of_lt_of_le hself hk₂
      refine bind (quiet (hI.newCallable d hself)) fun k₃ hk₃ made hmade => ?_
      refine bind (quiet (hI.decref _)) fun k₄ hk₄ _ _ => ?_
      split
      · exact bind (quiet hI.clearError) fun _ _ _ _ => bind (unregister id) fun _ _ _ _ =>
          bind (releaseDescriptor d) fun _ _ _ _ => pure_untold _
      · next callable =>
        have hle : n ≤ k₄ := Nat.le_trans (Nat.le_trans hk hk₁) (Nat.le_trans hk₂
          (Nat.le_trans hk₃ hk₄))
        refine modifyGet fun w hw hn => ?_
        have hcallable : callable < w.extent := refWithin_some.mp ((hmade.mono hk₄).mono hn)
        exact ⟨hw.exposed hcallable (hm.mono (Nat.le_trans hle hn)), rfl, trivial⟩

theorem expose (shape : Shape) {closure : Closure} (hclosure : closure.Within n) :
    Gives n Untold (Lambda.expose (Bench.machine call) shape closure) := by
  unfold Lambda.expose
  refine bind current fun k hk bound hbound => ?_
  split
  · exact pure_untold _
  · next m =>
    exact bind drawLambdaId fun _ hk' id _ =>
      create hc ((hbound m rfl).mono hk') id shape ((hclosure.mono hk).mono hk')

theorem exposeAs (text : String) (shape : Shape) {closure : Closure}
    (hclosure : closure.Within n) :
    Gives n Untold (Lambda.exposeAs (Bench.machine call) text shape closure) := by
  unfold Lambda.exposeAs
  split
  · exact pure_untold _
  · refine bind current fun k hk bound hbound => ?_
    split
    · exact pure_untold _
    · next m => exact create hc (hbound m rfl) _ shape (hclosure.mono hk)

theorem exposeUntyped (shape : Shape) {closure : Closure} (hclosure : closure.Within n) :
    Gives n Untold (Lambda.exposeUntyped (Bench.machine call) shape closure) := by
  unfold Lambda.exposeUntyped
  split
  · exact expose hc shape hclosure
  · exact pure_untold _

/-! ### Releasing a lambda -/

theorem release (i : Nat) : Gives n Untold (Lambda.release (Bench.machine call) i) := by
  unfold Lambda.release
  refine bind_get fun w hw hn => ?_
  split
  · next l hl =>
    split
    · next d _ =>
      have hI := Bench.gives_machine hc (hw.lambdas i l hl).2
      have hafter : Gives w.extent Untold (do
          let _ ← World.unregister l.id
          World.releaseDescriptor d
          ((Bench.machine call l.machine).decref l.callable).run
          return true : Exec Session Bool) :=
        bind (unregister l.id) fun _ _ _ _ => bind (releaseDescriptor d) fun _ _ _ _ =>
          bind (quiet (hI.decref _)) fun _ _ _ _ => pure_untold _
      have hr := hafter _ (hw.released hl none) (Nat.le_refl _)
      exact ⟨hr.orderly, hr.grows, hr.result⟩
    · exact ⟨hw, Nat.le_refl _, fun _ _ => trivial⟩
  · exact ⟨hw, Nat.le_refl _, fun _ _ => trivial⟩

theorem withRelease {Q : Nat → α → Prop} (hQ : ∀ {k k' a}, k ≤ k' → Q k a → Q k' a) (i : Nat)
    {body : Exec Session α} (hbody : Gives n Q body) :
    Gives n Q (Lambda.withRelease (Bench.machine call) i body) :=
  andFinally hQ hbody (bind (release hc i) fun _ _ _ _ => pure_untold _)

end

/-! ### Lambdas written as source text -/

theorem keepLambda (l : SourceLambda) : Gives n Untold (SourceLambda.keep l : Exec Session Nat) :=
  modifyGet fun _ hw _ => ⟨hw.of_eq rfl rfl rfl rfl, rfl, trivial⟩

section

variable {I : Interpreter Bench.Outside} (hI : I.Gives) {c : Context}
include hI

theorem define (hcontext : c.Within n) (name : Ident) (source : String) :
    Gives n Untold (SourceLambda.define I c name source) := by
  unfold SourceLambda.define
  refine bind (execute hI hcontext _ _ _) fun _ _ r _ => ?_
  split
  · exact pure_untold _
  · exact bind (discard hI _) fun _ _ _ _ => pure_untold _

theorem fetch (name : Ident) :
    Gives n (OfOk fun k (r : Ref) => r < k) (SourceLambda.fetch I c name) := by
  unfold SourceLambda.fetch
  refine bind (getGlobal hI c _) fun k _ r hr => ?_
  split
  · next r => exact pure fun _ hk => ofOk_ok (refWithin_some.mp (hr.mono hk))
  · exact pure fun _ _ => ofOk_error _

/-- The function of a lambda written as source text is there. -/
theorem resolve (hcontext : c.Within n) (i : Nat) :
    Gives n (OfOk fun k (r : Ref) => r < k) (SourceLambda.resolve I c i) := by
  unfold SourceLambda.resolve
  refine bind_get fun w hw hn => ?_
  split
  · exact ⟨hw, Nat.le_refl _, ofOk_ok (ofOk_error _)⟩
  · next l _ =>
    split
    · exact fetch hI _ w hw hn
    · exact ⟨hw, Nat.le_refl _, nofun⟩
    · have hattempt : Gives n Untold (SourceLambda.attempt i : Exec Session Ident) :=
        bind drawSourceId fun _ _ _ _ => bind (SourceLambda.gives_modify i _) fun _ _ _ _ =>
          pure_untold _
      refine bind hattempt (fun k hk name _ => ?_) w hw hn
      refine bind (define hI (hcontext.mono hk) name l.source).catchPanic fun _ _ made _ => ?_
      refine bind (SourceLambda.gives_modify i _) fun _ _ _ _ => ?_
      unfold SourceLambda.conclude
      split
      · exact panic _
      · exact pure fun _ _ => ofOk_error _
      · exact fetch hI name

end

end Exec.Gives

end ClosureBridge
