import ClosureBridge.Proofs.Lambda.Custody

/-!
# The scope of a lambda

A lambda can be lent to a body of host code, after which it is released, also when the body panics.
The host gives the lambda up for that, so nothing that the body does, not even a scope inside it,
can release the lambda first. Its identifier is therefore still its own when the scope ends, and the
release there is the only one. A lambda that had been released before is not released again, and by
then its identifier may be another lambda's.

## Main definitions

* `Session.Owned`: the host holds lambdas that have been exposed, each under one name.
* `Session.Lent`: a lambda is as it was lent, and the host does not hold it.
* `Session.ReleasedOnce`, `Session.Closes`: how a scope ends whose body has ended.

## Main statements

* `Session.stable_owned`, `Session.stable_lent`: whatever is run keeps both.
* `Session.scope_releases_once`: how the scopes of a run end.
* `Session.not_scope_unregisters`: the identifier of a lambda that had been released before its
  scope may be registered after it.
-/

namespace ClosureBridge

namespace Bindings

variable {α : Type} {b : Bindings α} {name other : String} {a a' : α}

/-- What a name is bound to once another is bound. -/
theorem of_get?_insert (h : (b.insert name a).get? other = some a') :
    other = name ∧ a' = a ∨ other ≠ name ∧ b.get? other = some a' := by
  by_cases ho : other = name
  · subst ho
    rw [get?_insert_self] at h
    exact .inl ⟨rfl, (Option.some.inj h).symm⟩
  · rw [get?_insert_of_ne b ho] at h
    exact .inr ⟨ho, h⟩

/-- What a name is bound to once another is unbound. -/
theorem of_get?_erase (h : (b.erase name).get? other = some a') :
    other ≠ name ∧ b.get? other = some a' := by
  by_cases ho : other = name
  · subst ho
    rw [get?_erase_self] at h
    cases h
  · rw [get?_erase_of_ne b ho] at h
    exact ⟨ho, h⟩

end Bindings

namespace Session

variable {w v : Session} {k : Nat} {l : Lambda}

/-- The number of an exposed lambda stays one where no lambda is released. -/
theorem Spares.lt_size (h : Spares w v) (hk : k < w.lambdas.size) : k < v.lambdas.size :=
  (Array.getElem?_eq_some_iff.mp (h.lambdas (Array.getElem?_eq_getElem hk))).1

/-! ### What the host holds -/

namespace Reachable

theorem change (h : Reachable w) (hc : Change False w v) : Reachable v :=
  h.reaches (.single hc)

theorem onDesk (h : Reachable w) (f : Desk → Desk) : Reachable (w.onDesk f) :=
  h.change (.outside (.refl _))

end Reachable

/-- The host holds lambdas that have been exposed, each under one name. -/
structure Owned (w : Session) : Prop where
  reachable : Reachable w
  exposed : ∀ {name : String} {k : Nat}, w.outside.rest.desk.lambdas.get? name = some k →
    k < w.lambdas.size
  distinct : ∀ {name name' : String} {k : Nat}, w.outside.rest.desk.lambdas.get? name = some k →
    w.outside.rest.desk.lambdas.get? name' = some k → name = name'

namespace Owned

theorem of_fresh (hw : Fresh w) (hd : w.outside.rest.desk.lambdas = ∅) : Owned w where
  reachable := .of_fresh hw
  exposed h := by simp [hd] at h
  distinct h := by simp [hd] at h

/-- What the host holds and how many lambdas there are is all that matters. -/
theorem of_desk (h : Owned w) (hv : Reachable v)
    (hd : v.outside.rest.desk.lambdas = w.outside.rest.desk.lambdas)
    (hs : ∀ k < w.lambdas.size, k < v.lambdas.size) : Owned v where
  reachable := hv
  exposed hk := hs _ (h.exposed (by rwa [hd] at hk))
  distinct hk hk' := h.distinct (by rwa [hd] at hk) (by rwa [hd] at hk')

/-- The host holds one more lambda, which had no name. -/
theorem holding (h : Owned w) (name : String) (hk : k < w.lambdas.size)
    (hnew : ∀ other, w.outside.rest.desk.lambdas.get? other ≠ some k) :
    Owned (w.onDesk fun d => { d with lambdas := d.lambdas.insert name k }) where
  reachable := h.reachable.onDesk _
  exposed hget := by
    rcases Bindings.of_get?_insert hget with ⟨-, rfl⟩ | ⟨-, hget⟩
    · exact hk
    · exact h.exposed hget
  distinct hget hget' := by
    rcases Bindings.of_get?_insert hget with ⟨rfl, rfl⟩ | ⟨-, hold⟩
    · rcases Bindings.of_get?_insert hget' with ⟨rfl, -⟩ | ⟨-, hold'⟩
      · rfl
      · exact absurd hold' (hnew _)
    · rcases Bindings.of_get?_insert hget' with ⟨rfl, rfl⟩ | ⟨-, hold'⟩
      · exact absurd hold (hnew _)
      · exact h.distinct hold hold'

/-- The host lets a lambda go. -/
theorem dropping (h : Owned w) (name : String) :
    Owned (w.onDesk fun d => { d with lambdas := d.lambdas.erase name }) where
  reachable := h.reachable.onDesk _
  exposed hget := h.exposed (Bindings.of_get?_erase hget).2
  distinct hget hget' :=
    h.distinct (Bindings.of_get?_erase hget).2 (Bindings.of_get?_erase hget').2

theorem outlives (k : Nat) : Outlives Owned k where
  released hl hd hs hdesk hw :=
    hw.of_desk (hw.reachable.change (.released hl hd hs.grows)) (congrArg Desk.lambdas hdesk)
      fun _ hi => by rwa [Array.size_setIfInBounds]

end Owned

/-- What the host holds stays well kept. -/
theorem stable_owned : Stable False Owned where
  change hc _ _ hs hw := hw.of_desk (hw.reachable.change hc) hs.desk fun _ => hs.lt_size
  closures hw := hw.reachable.tidy.sound.closures
  held _ _ := Owned.outlives _
  next _ := Owned.outlives _
  holding name hw hv hs hlt := by
    refine hv.holding name hlt fun other hother => ?_
    rw [hs.desk] at hother
    exact Nat.lt_irrefl _ (hw.exposed hother)
  dropping name hw := hw.dropping name
  settling ok _ _ _ hv := hv.of_desk (hv.reachable.change (.ended _ ok)) rfl fun _ hi => hi
  counted f hw := hw.of_desk (hw.reachable.change (.counted f)) rfl fun _ hi => hi

/-- A lambda is as it was lent, and the host holds it under no name. -/
structure Lent (k : Nat) (l : Lambda) (w : Session) : Prop where
  reachable : Reachable w
  lambda : w.lambdas[k]? = some l
  unheld : ∀ name, w.outside.rest.desk.lambdas.get? name ≠ some k

namespace Lent

theorem outlives {n : Nat} (hn : n ≠ k) : Outlives (Lent k l) n where
  released hl hd hs hdesk hw := by
    refine ⟨hw.reachable.change (.released hl hd hs.grows), ?_, fun name => ?_⟩
    · rw [Array.getElem?_setIfInBounds_ne hn]
      exact hw.lambda
    · dsimp only
      rw [hdesk]
      exact hw.unheld name

end Lent

/-- A lambda stays as it was lent: whatever is run, no release is one of it. -/
theorem stable_lent (k : Nat) (l : Lambda) : Stable False (Lent k l) where
  change hc _ _ hs hw := by
    refine ⟨hw.reachable.change hc, hs.lambdas hw.lambda, fun name => ?_⟩
    rw [hs.desk]
    exact hw.unheld name
  closures hw := hw.reachable.tidy.sound.closures
  held hw hn := Lent.outlives fun he => hw.unheld _ (he ▸ hn)
  next hw := Lent.outlives fun he => by
    have hk := (Array.getElem?_eq_some_iff.mp hw.lambda).1
    exact Nat.ne_of_gt hk he
  holding name hw hv _ _ := by
    refine ⟨hv.reachable.onDesk _, hv.lambda, fun other hother => ?_⟩
    rcases Bindings.of_get?_insert hother with ⟨-, he⟩ | ⟨-, hget⟩
    · have hk := (Array.getElem?_eq_some_iff.mp hw.lambda).1
      exact Nat.ne_of_lt hk he
    · exact hv.unheld other hget
  dropping name hw := ⟨hw.reachable.onDesk _, hw.lambda,
    fun other hother => hw.unheld other (Bindings.of_get?_erase hother).2⟩
  settling ok _ _ _ hv := ⟨hv.reachable.change (.ended _ ok), hv.lambda, hv.unheld⟩
  counted f hw := ⟨hw.reachable.change (.counted f), hw.lambda, hw.unheld⟩

/-! ### The end of a scope -/

/-- The descriptors wait or are those of unreleased lambdas, each once. -/
theorem Reachable.shared (h : Reachable w) : w.descriptors.Shared (Lambda.held w.lambdas) := by
  obtain ⟨w₀, hfresh, hw⟩ := h
  obtain ⟨peak, built, hcustody, -⟩ := (Custody.fresh hfresh).reaches hw
  exact hcustody.kept.shared

/-- The descriptor of an unreleased lambda does not wait. -/
theorem Reachable.not_mem_waiting (h : Reachable w) {d : Nat} (hl : w.lambdas[k]? = some l)
    (hd : l.descriptor = some d) : d ∉ w.descriptors.waiting := fun hmem =>
  (List.nodup_append.mp h.shared.nodup).2.2 d hmem d (Lambda.mem_held.mpr ⟨k, l, hl, hd⟩) rfl

/-- A lambda that is registered in one state is released in the other, and nothing else is: its
identifier is taken out of the registry, and its descriptor, which did not wait, is given back. -/
structure ReleasedOnce (k : Nat) (l : Lambda) (d : Nat) (v u : Session) : Prop where
  registered : v.registry.get? l.id = some (l.shape, l.call)
  unregistered : u.registry.get? l.id = none
  others : ∀ id, id ≠ l.id → u.registry.get? id = v.registry.get? id
  away : d ∉ v.descriptors.waiting
  given : u.descriptors = v.descriptors.release d
  lambdas : u.lambdas = v.lambdas.setIfInBounds k { l with descriptor := none }

/-- How the scope of a lambda ends, given how its body has ended. The body leaves the lambda as it
is, so it has not released it, since a released lambda stays released. Its result or panic is that
of the scope, and an unreleased lambda is released, unless the body has nested too deep. -/
structure Closes (k : Nat) (l : Lambda) (ended : Except Stop Json × Session)
    (exit : Except Stop Answer × Session) : Prop where
  lambda : ended.2.lambdas[k]? = some l
  outcome : exit.1 = ended.1.map .plain
  released : ended.1 ≠ .error .exhausted → ∀ d, l.descriptor = some d →
    ReleasedOnce k l d ended.2 exit.2
  passed : ended.1 = .error .exhausted ∨ l.descriptor = none → exit.2 = ended.2

/-- A stop is not made by what is done with a result. -/
theorem error_of_map {α β : Type} {f : α → β} {outcome : Except Stop α} {stop : Stop}
    (h : outcome.map f = .error stop) : outcome = .error stop := by
  cases outcome <;> cases h
  rfl

/-- The scope of an unreleased lambda whose body panics. -/
theorem Closes.of_panic {ended : Except Stop Json × Session} {exit : Except Stop Answer × Session}
    (h : Closes k l ended exit) (payload : Payload)
    (hp : ended.1.map (fun _ => ()) = .error (.panic payload)) {d : Nat}
    (hd : l.descriptor = some d) :
    exit.1 = .error (.panic payload) ∧ ReleasedOnce k l d ended.2 exit.2 := by
  have hended : ended.1 = .error (.panic payload) := error_of_map hp
  refine ⟨by rw [h.outcome, hended]; rfl, h.released ?_ d hd⟩
  rw [hended]
  simp

/-- The state in which a body begins that a lambda is lent to: its callable is kept. -/
def lending (w : Session) (k : Nat) : Session :=
  w.onDesk fun d => { d with saved := d.saved.insert "scoped" (w.callable? k) }

theorem Lent.lending (h : Lent k l w) (n : Nat) : Lent k l (w.lending n) where
  reachable := h.reachable.onDesk _
  lambda := h.lambda
  unheld := h.unheld

/-- The release of a lambda that has not been released since it was lent. -/
theorem Lent.releasedOnce (h : Lent k l v) {d : Nat} (hd : l.descriptor = some d)
    (rc : Script.Caller Bench) :
    ReleasedOnce k l d v ((Lambda.release (Bench.machine rc) k).run v).2 := by
  have hu : Unreleased v.lambdas k l := ⟨h.lambda, by rw [hd]; rfl⟩
  obtain ⟨hgone, hothers⟩ := h.reachable.tidy.get?_release rc k
  have hrun := Lambda.run_release (Bench.machine rc) h.lambda hd
  refine ⟨h.reachable.tidy.maps.get?_eq hu, hgone l hu, fun id hid => hothers id ?_,
    h.reachable.not_mem_waiting h.lambda hd, by rw [hrun], by rw [hrun]⟩
  rintro l' ⟨hl', -⟩ rfl
  exact hid (congrArg Lambda.id (Option.some.inj (hl'.symm.trans h.lambda)))

/-- A result is put into an answer. -/
theorem run_plain (m : Exec Session Json) (w : Session) :
    (do return .plain (← m) : Exec Session Answer).run w =
      ((m.run w).1.map .plain, (m.run w).2) := by
  rw [Exec.run_bind]
  rcases m.run w with ⟨_ | _, _⟩ <;> rfl

/-- The scope of a lambda that is still as it was lent when the body has ended. -/
theorem Lent.closes (rc : Script.Caller Bench) {m : Exec Session Json}
    (h : Lent k l (m.run w).2) :
    Closes k l (m.run w)
      ((Lambda.withRelease (Bench.machine rc) k do return .plain (← m)).run w) := by
  by_cases hended : (m.run w).1 = .error .exhausted
  · have hexhausted : ((do return .plain (← m) : Exec Session Answer).run w).1 =
        .error .exhausted := by
      rw [run_plain, hended]
      rfl
    rw [Lambda.run_withRelease_of_exhausted _ k hexhausted, run_plain]
    exact ⟨h.lambda, rfl, fun hne => absurd hended hne, fun _ => rfl⟩
  · have hends : ((do return .plain (← m) : Exec Session Answer).run w).1 ≠
        .error .exhausted := by
      rw [run_plain]
      exact fun hmap => hended (error_of_map hmap)
    rw [Lambda.run_withRelease _ k hends, run_plain]
    refine ⟨h.lambda, rfl, fun _ d hd => h.releasedOnce hd rc, fun hpassed => ?_⟩
    have hd : l.descriptor = none := hpassed.resolve_left hended
    rw [Lambda.run_release_of_released]
    rintro l' ⟨hl', hd'⟩
    rw [Option.some.inj (hl'.symm.trans h.lambda), hd] at hd'
    cases hd'

/-- The scope of a lambda that the host has given up. -/
theorem Lent.withLambda (h : Lent k l w) (n : Nat) {body : Program .answer}
    (hbody : body.Obeys False) :
    Closes k l ((Run.program (.level n) body).run (w.lending k))
      ((Perform.withLambda (.level n) k do
        return .plain (← Run.program (.level n) body)).run w) :=
  have hP := stable_lent k l
  Lent.closes _ (hP.program (hP.level n) body hbody _ (h.lending k))

/-- Once the host has let go of a lambda that it held, it holds it no more. -/
theorem Owned.lent (h : Owned w) {name : String}
    (hk : w.outside.rest.desk.lambdas.get? name = some k) :
    ∃ l, w.lambdas[k]? = some l ∧
      Lent k l (w.onDesk fun d => { d with lambdas := d.lambdas.erase name }) := by
  have hl := Array.getElem?_eq_getElem (h.exposed hk)
  refine ⟨_, hl, (h.dropping name).reachable, hl, fun other hother => ?_⟩
  obtain ⟨hne, hget⟩ := Bindings.of_get?_erase hother
  exact hne (h.distinct hget hk)

/-- A lambda that has just been exposed is held by nobody. -/
theorem Owned.lent_exposed (h : Owned w) {r : Recursion} {how : Exposure} {shape : Shape}
    {call : Closure} (hcall : call.Obeys False)
    (hv : (Perform.expose r how shape call).run w = (.ok (.ok k), v)) :
    ∃ l d, l.shape = shape ∧ l.call = call ∧ l.descriptor = some d ∧ Lent k l v := by
  have howned := stable_owned.exposure how shape (r := r) hcall w h
  have hspares := (abiding_spares w).exposure how shape (r := r) hcall w (.refl w)
  rw [hv] at howned hspares
  obtain ⟨rfl, l, ⟨hl, hd⟩, hshape, hbody⟩ := Perform.exposed_expose hv
  obtain ⟨d, hd⟩ := Option.isSome_iff_exists.mp hd
  refine ⟨l, d, hshape, hbody, hd, howned.reachable, hl, fun name hname => ?_⟩
  rw [hspares.desk] at hname
  exact Nat.lt_irrefl _ (h.exposed hname)

/-! ### The scopes of a run -/

/-- The host lets go of a lambda that it held, and its scope begins. -/
theorem run_scopedName (r : Recursion) {name : String} (body : Program .answer)
    (hk : w.outside.rest.desk.lambdas.get? name = some k) :
    (Run.step r (.scopedName name body)).run w =
      (Perform.withLambda r k do return .plain (← Run.program r body)).run
        (w.onDesk fun d => { d with lambdas := d.lambdas.erase name }) := by
  have hdesk : Bench.getDesk.run w = (.ok w.outside.rest.desk, w) := rfl
  unfold Run.step
  rw [Exec.run_bind_of_ok hdesk, hk]
  rfl

/-- A closure is exposed, and the scope of the lambda begins. -/
theorem run_scoped {r : Recursion} {how : Exposure} {shape : Shape} {call : Closure}
    (body : Program .answer) (hv : (Perform.expose r how shape call).run w = (.ok (.ok k), v)) :
    (Run.step r (.scoped how shape call body)).run w =
      (Perform.withLambda r k do return .plain (← Run.program r body)).run v := by
  unfold Run.step
  rw [Exec.run_bind_of_ok hv]
  rfl

/-- **A scope releases its lambda once, whatever its body does.** Whatever is run through lambdas
only, the host goes on holding lambdas that have been exposed, each under one name. A body to which
one of them is lent, or one that has just been exposed, leaves it as it was, whatever it exposes,
calls, releases and lends itself. The scope ends as the body does, by its result or by its panic. If
the lambda had not been released before, it is released then: its identifier, which was its own to
the end of the body, is registered no longer, every other one is registered as the body left it, and
its descriptor, which did not wait, is given back. A lambda that had been released is not released
again, and the state is as the body left it. -/
theorem scope_releases_once (hw : Owned w) :
    (∀ (n : Nat) (s : Step), s.Obeys False → Owned ((Run.step (.level n) s).run w).2) ∧
      (∀ (n : Nat) (t : Task) (p : Program t), p.Obeys False →
        Owned ((Run.program (.level n) p).run w).2) ∧
      (∀ (n m : Nat) (f : Option Ref) (args : List (Option Ref)),
        Owned (((Recursion.level n).call m f args).run.run w).2) ∧
      ∀ (n : Nat) (body : Program .answer), body.Obeys False →
        (∀ name k, w.outside.rest.desk.lambdas.get? name = some k →
          ∃ l, w.lambdas[k]? = some l ∧
            Closes k l
              ((Run.program (.level n) body).run ((w.onDesk fun d =>
                { d with lambdas := d.lambdas.erase name }).lending k))
              ((Run.step (.level n) (.scopedName name body)).run w)) ∧
        ∀ how shape call k v, call.Obeys False →
          (Perform.expose (.level n) how shape call).run w = (.ok (.ok k), v) →
            ∃ l d, l.shape = shape ∧ l.call = call ∧ l.descriptor = some d ∧
              Closes k l ((Run.program (.level n) body).run (v.lending k))
                ((Run.step (.level n) (.scoped how shape call body)).run w) := by
  have hP := stable_owned
  refine ⟨fun n s hs => hP.step (hP.level n) s hs w hw,
    fun n t p hp => hP.program (hP.level n) p hp w hw,
    fun n m f args => (hP.level n).call m f args w hw,
    fun n body hbody => ⟨fun name k hk => ?_, fun how shape call k v hcall hv => ?_⟩⟩
  · obtain ⟨l, hl, hlent⟩ := hw.lent hk
    rw [run_scopedName _ body hk]
    exact ⟨l, hl, hlent.withLambda n hbody⟩
  · obtain ⟨l, d, hshape, hl, hd, hlent⟩ := hw.lent_exposed hcall hv
    rw [run_scoped body hv]
    exact ⟨l, d, hshape, hl, hd, hlent.withLambda n hbody⟩

theorem owned_taking (n : Nat) {steps : List Step} (hs : ∀ s ∈ steps, s.Obeys False)
    (hw : Owned w) : Owned (taking n steps w) := by
  induction steps generalizing w with
  | nil => exact hw
  | cons s rest ih =>
    have hstep := stable_owned.step (stable_owned.level n) s (hs s List.mem_cons_self) w hw
    exact ih (fun s' hs' => hs s' (List.mem_cons_of_mem s hs')) hstep

theorem owned_fresh : Owned Trial.fresh :=
  .of_fresh ⟨rfl, rfl, rfl, rfl⟩ rfl

/-- A closure is exposed under an identifier, and its lambda is held. -/
def holdingOne : Session :=
  taking 1 (reuse.take 3) Trial.fresh

theorem owned_holdingOne : Owned holdingOne :=
  owned_taking 1 (fun s hs => obeys_reuse s (List.mem_of_mem_take hs)) owned_fresh

/-- A body that opens a scope of its own, which panics, and then panics itself. -/
def panicking : Program .answer :=
  .step (.scoped .fresh ⟨.object, .text⟩ Closure.kindName (.panic .other)) fun _ =>
    .panic (.text "late")

theorem obeys_panicking : panicking.Obeys False :=
  ⟨⟨fun _ => trivial, trivial⟩, fun _ => trivial⟩

/-- A lambda that is held, and one that is exposed for its scope, are released by a panic that comes
after one of a scope inside theirs. -/
theorem scope_releases_once_panicking :
    (∃ l v, l.id = ⟨"x"⟩ ∧ ReleasedOnce 0 l 0 v
        ((Run.step (.level 1) (.scopedName "a" panicking)).run holdingOne).2) ∧
      ((Run.step (.level 1) (.scopedName "a" panicking)).run holdingOne).1 =
        .error (.panic (.text "late")) ∧
      ∃ l d v, l.shape = ⟨.object, .object⟩ ∧ ReleasedOnce 1 l d v
        ((Run.step (.level 1) (.scoped .fresh ⟨.object, .object⟩ Closure.echo panicking)).run
          holdingOne).2 := by
  obtain ⟨-, -, -, hscopes⟩ := scope_releases_once owned_holdingOne
  obtain ⟨hheld, hexposed⟩ := hscopes 1 panicking obeys_panicking
  obtain ⟨l, hl, hcloses⟩ := hheld "a" 0 rfl
  have hid : holdingOne.lambdas[0]?.map Lambda.id = some ⟨"x"⟩ := rfl
  have hd : holdingOne.lambdas[0]?.map Lambda.descriptor = some (some 0) := rfl
  rw [hl] at hid hd
  obtain ⟨houtcome, hreleased⟩ := hcloses.of_panic (.text "late") (by decide +kernel)
    (Option.some.inj hd)
  have hexpose : ((Perform.expose (.level 1) .fresh ⟨.object, .object⟩ Closure.echo).run
      holdingOne).1 = .ok (.ok 1) := by decide +kernel
  obtain ⟨l', d, hshape, -, hd', hcloses'⟩ := hexposed .fresh ⟨.object, .object⟩ Closure.echo 1 _
    (fun _ => trivial) (Prod.ext hexpose rfl)
  obtain ⟨-, hreleased'⟩ := hcloses'.of_panic (.text "late") (by decide +kernel) hd'
  exact ⟨⟨l, _, Option.some.inj hid, hreleased⟩, houtcome, l', d, _, hshape, hreleased'⟩

/-- The identifier of a lambda that had been released before its scope may be registered after it,
when another lambda has taken it since. -/
theorem not_scope_unregisters :
    ¬∀ (w : Session) (n k : Nat) (name : String) (l : Lambda) (body : Program .answer), Owned w →
      w.outside.rest.desk.lambdas.get? name = some k → w.lambdas[k]? = some l →
      body.Obeys False →
      ((Run.step (.level n) (.scopedName name body)).run w).2.registry.get? l.id = none := by
  intro h
  have hnone := h (taking 1 reuse Trial.fresh) 1 0 "a" _ (.done .null)
    (owned_taking 1 obeys_reuse owned_fresh) rfl rfl trivial
  cases hnone

end Session

end ClosureBridge
