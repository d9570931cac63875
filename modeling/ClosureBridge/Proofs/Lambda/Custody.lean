import ClosureBridge.Proofs.Descriptor.Pool
import ClosureBridge.Proofs.Lambda.Registered

/-!
# The custody of descriptors

A descriptor is taken for each closure that is exposed, and given back when the lambda is released
or when its callable cannot be built. As long as the descriptors are reached through lambdas only,
each is with the pool or with one unreleased lambda, no more are made than were ever taken at the
same time, and a callable finds the router behind its descriptor for good.

## Main definitions

* `Lambda.held`: the descriptors of the unreleased lambdas.
* `Session.Callable`: a callable that was built.
* `Session.Custody`: a history of the descriptors, with the most that were taken at the same time
  and the callables that were built.
* `Session.Kept`: what every history keeps.

## Main statements

* `Session.Custody.reaches`: every change goes on with the history.
* `Session.Custody.kept`: what holds after every history.
* `Session.descriptors_kept`: who has which descriptor, and what it is called.
-/

namespace ClosureBridge

namespace Ident

theorem nul_not_mem_of_crossing {id : Ident} (h : id.crossing = id.text) :
    '\x00' ∉ id.text.toList := by
  unfold crossing at h
  split at h
  · next hc =>
    rw [← h] at hc
    cases hc
  · next hc => simpa using hc

end Ident

namespace Lambda

/-- The descriptors of the unreleased lambdas. -/
def held (lambdas : Array Lambda) : List Nat :=
  lambdas.toList.filterMap Lambda.descriptor

variable {lambdas : Array Lambda} {l l' : Lambda} {n n' d : Nat}

theorem mem_held :
    d ∈ held lambdas ↔ ∃ (n : Nat) (l : Lambda), lambdas[n]? = some l ∧ l.descriptor = some d := by
  unfold held
  rw [List.mem_filterMap]
  constructor
  · rintro ⟨l, hl, hd⟩
    obtain ⟨n, hn⟩ := List.mem_iff_getElem?.mp hl
    exact ⟨n, l, by rwa [Array.getElem?_toList] at hn, hd⟩
  · rintro ⟨n, l, hl, hd⟩
    exact ⟨l, Array.mem_toList_iff.mpr (Array.mem_of_getElem? hl), hd⟩

theorem held_push (hd : l.descriptor = some d) : held (lambdas.push l) = held lambdas ++ [d] := by
  unfold held
  rw [Array.toList_push, List.filterMap_append, List.filterMap_cons_some hd, List.filterMap_nil]

/-- Releasing a lambda takes out what is read off it as long as it is unreleased. -/
theorem filterMap_release {α : Type} {f : Lambda → Option α} {a : α} (hl : lambdas[n]? = some l)
    (ha : f l = some a) (hnone : f { l with descriptor := none } = none) :
    (lambdas.toList.filterMap f).Perm
      (a :: (lambdas.setIfInBounds n { l with descriptor := none }).toList.filterMap f) := by
  obtain ⟨hn, hget⟩ := Array.getElem?_eq_some_iff.mp hl
  have hn' : n < lambdas.toList.length := by simpa using hn
  have hsplit : lambdas.toList = lambdas.toList.take n ++ l :: lambdas.toList.drop (n + 1) := by
    conv_lhs => rw [← List.take_append_drop n lambdas.toList, List.drop_eq_getElem_cons hn']
    rw [Array.getElem_toList, hget]
  have hset : (lambdas.setIfInBounds n { l with descriptor := none }).toList =
      lambdas.toList.take n ++ { l with descriptor := none } :: lambdas.toList.drop (n + 1) := by
    rw [Array.toList_setIfInBounds, List.set_eq_take_append_cons_drop, if_pos hn']
  rw [hset, hsplit, List.filterMap_append, List.filterMap_append, List.filterMap_cons_some ha,
    List.filterMap_cons_none hnone, ← hsplit]
  exact List.perm_middle

/-- Releasing a lambda takes its descriptor out of those that are held. -/
theorem held_release (hl : lambdas[n]? = some l) (hd : l.descriptor = some d) :
    (held lambdas).Perm (d :: held (lambdas.setIfInBounds n { l with descriptor := none })) :=
  filterMap_release hl hd rfl

/-- No two unreleased lambdas have the same descriptor, if none is held twice. -/
theorem eq_of_held (h : (held lambdas).Nodup) (hl : lambdas[n]? = some l)
    (hd : l.descriptor = some d) (hl' : lambdas[n']? = some l') (hd' : l'.descriptor = some d) :
    n = n' := by
  have hpair := List.pairwise_iff_getElem.mp (List.pairwise_filterMap.mp h)
  obtain ⟨hn, rfl⟩ := Array.getElem?_eq_some_iff.mp hl
  obtain ⟨hn', rfl⟩ := Array.getElem?_eq_some_iff.mp hl'
  rcases Nat.lt_trichotomy n n' with hlt | heq | hlt
  · exact absurd rfl (hpair n n' (by simpa using hn) (by simpa using hn') hlt d hd d hd')
  · exact heq
  · exact absurd rfl (hpair n' n (by simpa using hn') (by simpa using hn) hlt d hd' d hd)

end Lambda

namespace Session

/-- A callable that was built, by the interpreter in which it lives. -/
structure Callable where
  machine : MachineId
  object : Ref
  /-- The descriptor that it was built from. -/
  descriptor : Nat

/-- A history of the descriptors, from a state before the first lambda: the most descriptors that
were taken at the same time, and the callables that were built, the last one first. -/
inductive Custody : Session → Nat → List Callable → Prop where
  | fresh {w : Session} (hw : Fresh w) : Custody w 0 []
  /-- Neither a lambda nor a descriptor changes. -/
  | elsewhere {w v : Session} {peak : Nat} {built : List Callable} (h : Custody w peak built)
    (hc : Change False w v) (hl : v.lambdas = w.lambdas) (hd : v.descriptors = w.descriptors) :
    Custody v peak built
  /-- A closure is exposed. -/
  | exposed {w v : Session} {peak : Nat} {built : List Callable} {l : Lambda}
    (h : Custody w peak built) (hc : Change False w v)
    (hn : l.descriptor = some (w.descriptors.acquire l.id).1) (hl : v.lambdas = w.lambdas.push l)
    (hd : v.descriptors = (w.descriptors.acquire l.id).2) (hid : l.id.crossing = l.id.text)
    (hx : Exposes v.outside.store l.machine (w.descriptors.acquire l.id).1 l.callable l.id) :
    Custody v (max peak ((Lambda.held w.lambdas).length + 1))
      (⟨l.machine, l.callable, (w.descriptors.acquire l.id).1⟩ :: built)
  /-- A descriptor is taken and given back, because the callable cannot be built. -/
  | abandoned {w v : Session} {peak : Nat} {built : List Callable} (id : Ident)
    (h : Custody w peak built) (hc : Change False w v) (hl : v.lambdas = w.lambdas)
    (hd : v.descriptors = (w.descriptors.acquire id).2.release (w.descriptors.acquire id).1) :
    Custody v (max peak ((Lambda.held w.lambdas).length + 1)) built
  /-- A lambda is released. -/
  | released {w v : Session} {peak n d : Nat} {built : List Callable} {l : Lambda}
    (h : Custody w peak built) (hc : Change False w v) (hn : w.lambdas[n]? = some l)
    (hd : l.descriptor = some d)
    (hl : v.lambdas = w.lambdas.setIfInBounds n { l with descriptor := none })
    (hp : v.descriptors = w.descriptors.release d) : Custody v peak built

/-- What every history keeps. -/
structure Kept (w : Session) (peak : Nat) (built : List Callable) : Prop where
  tidy : Tidy w
  shared : w.descriptors.Shared (Lambda.held w.lambdas)
  size : w.descriptors.all.size = peak
  /-- A callable of a scripted interpreter holds the descriptor that it was built from. -/
  holds : ∀ c ∈ built, c.descriptor < w.descriptors.all.size ∧
    ∀ k, c.machine = .scripted k → ∃ self : Ref,
      w.outside.store.heap.objects[c.object]? = some (.callable c.descriptor (some self))
  listed : ∀ {n : Nat} {l : Lambda}, w.lambdas[n]? = some l → ∃ c ∈ built,
    c.machine = l.machine ∧ c.object = l.callable ∧ ∀ d, l.descriptor = some d → c.descriptor = d
  named : ∀ {n d : Nat} {l : Lambda}, w.lambdas[n]? = some l → l.descriptor = some d →
    ∃ slot, w.descriptors.all[d]? = some slot ∧ slot.octets = Descriptor.stored l.id

variable {w v : Session} {peak : Nat} {built : List Callable}

namespace Kept

theorem of_fresh (hw : Fresh w) : Kept w 0 [] where
  tidy := hw.tidy
  shared := by
    rw [hw.descriptors, hw.lambdas]
    exact DescriptorPool.shared_empty
  size := by
    rw [hw.descriptors]
    rfl
  holds c hc := by cases hc
  listed hl := by simp [hw.lambdas] at hl
  named hl := by simp [hw.lambdas] at hl

/-- Callables that were built stay as they are. -/
theorem holds_of_grows (h : Kept w peak built) (hg : w.outside.store.Grows v.outside.store)
    (hs : w.descriptors.all.size ≤ v.descriptors.all.size) :
    ∀ c ∈ built, c.descriptor < v.descriptors.all.size ∧
      ∀ k, c.machine = .scripted k → ∃ self : Ref,
        v.outside.store.heap.objects[c.object]? = some (.callable c.descriptor (some self)) := by
  intro c hc
  obtain ⟨hlt, hobject⟩ := h.holds c hc
  refine ⟨Nat.lt_of_lt_of_le hlt hs, fun k hk => ?_⟩
  obtain ⟨self, hself⟩ := hobject k hk
  exact ⟨self, hg.fixed hself rfl⟩

theorem elsewhere (h : Kept w peak built) (hc : Change False w v) (hl : v.lambdas = w.lambdas)
    (hd : v.descriptors = w.descriptors) : Kept v peak built where
  tidy := h.tidy.change hc
  shared := by
    rw [hl, hd]
    exact h.shared
  size := by rw [hd, h.size]
  holds := h.holds_of_grows hc.grows (by rw [hd])
  listed hn := h.listed (by rwa [hl] at hn)
  named hn hslot := by
    rw [hl] at hn
    rw [hd]
    exact h.named hn hslot

/-- Taking one more descriptor makes one only when all that there are are held. -/
theorem size_acquire (h : Kept w peak built) (id : Ident) :
    (w.descriptors.acquire id).2.all.size =
      max peak ((Lambda.held w.lambdas).length + 1) := by
  rw [h.shared.size_acquire, h.size]

/-- The descriptors of unreleased lambdas keep their names when one is taken. -/
theorem named_acquire (h : Kept w peak built) (id : Ident) {n d : Nat} {l : Lambda}
    (hl : w.lambdas[n]? = some l) (hd : l.descriptor = some d) :
    ∃ slot, (w.descriptors.acquire id).2.all[d]? = some slot ∧
      slot.octets = Descriptor.stored l.id := by
  rw [h.shared.getElem?_acquire id (Lambda.mem_held.mpr ⟨n, l, hl, hd⟩)]
  exact h.named hl hd

theorem exposed (h : Kept w peak built) {l : Lambda} (hc : Change False w v)
    (hn : l.descriptor = some (w.descriptors.acquire l.id).1) (hl : v.lambdas = w.lambdas.push l)
    (hd : v.descriptors = (w.descriptors.acquire l.id).2) (hid : l.id.crossing = l.id.text)
    (hx : Exposes v.outside.store l.machine (w.descriptors.acquire l.id).1 l.callable l.id) :
    Kept v (max peak ((Lambda.held w.lambdas).length + 1))
      (⟨l.machine, l.callable, (w.descriptors.acquire l.id).1⟩ :: built) := by
  have hlt := h.tidy.ready.acquire_lt l.id
  rw [← hd] at hlt
  refine ⟨h.tidy.change hc, ?_, ?_, ?_, ?_, ?_⟩
  · rw [hl, hd, Lambda.held_push hn]
    exact ((List.perm_append_singleton _ _).append_left _).trans (h.shared.acquire l.id)
  · rw [hd, h.size_acquire]
  · intro c hmem
    rcases List.mem_cons.mp hmem with rfl | hmem
    · refine ⟨hlt, fun k hk => ?_⟩
      obtain ⟨self, hself, -⟩ := hx k hk
      exact ⟨self, hself⟩
    · refine h.holds_of_grows hc.grows ?_ c hmem
      rw [hd]
      exact DescriptorPool.size_acquire_le _ _
  · intro n l' hl'
    rw [hl, Array.getElem?_push] at hl'
    split at hl'
    · cases hl'
      exact ⟨_, List.mem_cons_self, rfl, rfl, fun d hd' => Option.some.inj (hn.symm.trans hd')⟩
    · obtain ⟨c, hmem, hsame⟩ := h.listed hl'
      exact ⟨c, List.mem_cons_of_mem _ hmem, hsame⟩
  · intro n d l' hl' hd'
    rw [hl, Array.getElem?_push] at hl'
    rw [hd]
    split at hl'
    · cases hl'
      rw [hn, Option.some.injEq] at hd'
      subst hd'
      obtain ⟨slot, hslot⟩ := w.descriptors.exists_getElem?_acquire h.tidy.ready.waiting l.id
      exact ⟨_, hslot, slot.octets_assign (Ident.nul_not_mem_of_crossing hid)⟩
    · exact h.named_acquire l.id hl' hd'

theorem abandoned (h : Kept w peak built) (id : Ident) (hc : Change False w v)
    (hl : v.lambdas = w.lambdas)
    (hd : v.descriptors = (w.descriptors.acquire id).2.release (w.descriptors.acquire id).1) :
    Kept v (max peak ((Lambda.held w.lambdas).length + 1)) built where
  tidy := h.tidy.change hc
  shared := by
    rw [hl, hd]
    exact (h.shared.acquire id).release (List.Perm.refl _)
  size := by
    rw [hd]
    exact h.size_acquire id
  holds := by
    refine h.holds_of_grows hc.grows ?_
    rw [hd]
    exact DescriptorPool.size_acquire_le _ _
  listed hn := h.listed (by rwa [hl] at hn)
  named hn hslot := by
    rw [hl] at hn
    rw [hd]
    exact h.named_acquire id hn hslot

theorem released (h : Kept w peak built) {n d : Nat} {l : Lambda} (hc : Change False w v)
    (hn : w.lambdas[n]? = some l) (hd : l.descriptor = some d)
    (hl : v.lambdas = w.lambdas.setIfInBounds n { l with descriptor := none })
    (hp : v.descriptors = w.descriptors.release d) : Kept v peak built := by
  have hlt : n < w.lambdas.size := (Array.getElem?_eq_some_iff.mp hn).1
  refine ⟨h.tidy.change hc, ?_, ?_, ?_, ?_, ?_⟩
  · rw [hl, hp]
    exact h.shared.release (Lambda.held_release hn hd)
  · rw [hp]
    exact h.size
  · refine h.holds_of_grows hc.grows ?_
    rw [hp]
    exact Nat.le_refl _
  · intro m l' hl'
    rw [hl] at hl'
    by_cases hm : n = m
    · subst hm
      rw [Array.getElem?_setIfInBounds_self_of_lt hlt] at hl'
      cases hl'
      obtain ⟨c, hmem, hmachine, hobject, -⟩ := h.listed hn
      exact ⟨c, hmem, hmachine, hobject, fun d hd => by cases hd⟩
    · rw [Array.getElem?_setIfInBounds_ne hm] at hl'
      exact h.listed hl'
  · intro m d' l' hl' hd'
    rw [hl] at hl'
    rw [hp]
    by_cases hm : n = m
    · subst hm
      rw [Array.getElem?_setIfInBounds_self_of_lt hlt] at hl'
      cases hl'
      cases hd'
    · rw [Array.getElem?_setIfInBounds_ne hm] at hl'
      exact h.named hl' hd'

end Kept

namespace Custody

/-- What holds after every history. -/
theorem kept (h : Custody w peak built) : Kept w peak built := by
  induction h with
  | fresh hw => exact .of_fresh hw
  | elsewhere _ hc hl hd ih => exact ih.elsewhere hc hl hd
  | exposed _ hc hn hl hd hid hx ih => exact ih.exposed hc hn hl hd hid hx
  | abandoned id _ hc hl hd ih => exact ih.abandoned id hc hl hd
  | released _ hc hn hd hl hp ih => exact ih.released hc hn hd hl hp

/-- Every change that goes through lambdas goes on with the history. -/
theorem change (h : Custody w peak built) (hc : Change False w v) :
    ∃ peak' more, Custody v peak' (more ++ built) ∧ peak ≤ peak' := by
  have hc' : Change False w v := hc
  cases hc with
  | @exposed id shape call m callable registry o hcall hid hr hg hx =>
    refine ⟨_, [⟨m, callable, (w.descriptors.acquire id).1⟩], .exposed
      (l := ⟨id, shape, call, m, callable, some (w.descriptors.acquire id).1⟩)
      h hc' rfl rfl rfl (hid h.kept.tidy.sound.stem) hx, Nat.le_max_left _ _⟩
  | @abandoned id shape call registry o hr hg =>
    exact ⟨_, [], .abandoned id h hc' rfl rfl, Nat.le_max_left _ _⟩
  | released hl hd _ => exact ⟨peak, [], .released h hc' hl hd rfl rfl, Nat.le_refl _⟩
  | registered hd _ _ => exact hd.elim
  | unregistered hd _ => exact hd.elim
  | taken hd _ => exact hd.elim
  | given hd _ => exact hd.elim
  | _ => exact ⟨peak, [], .elsewhere h hc' rfl rfl, Nat.le_refl _⟩

/-- So does whatever is made of such changes. -/
theorem reaches (h : Custody w peak built) (hv : Reaches False w v) :
    ∃ peak' more, Custody v peak' (more ++ built) ∧ peak ≤ peak' := by
  induction hv with
  | refl => exact ⟨peak, [], h, Nat.le_refl _⟩
  | tail _ hc ih =>
    obtain ⟨peak', more, h', hle⟩ := ih
    obtain ⟨peak'', more', h'', hle'⟩ := h'.change hc
    exact ⟨peak'', more' ++ more, by rwa [List.append_assoc], Nat.le_trans hle hle'⟩

end Custody

/-- **Who has which descriptor.** After every history of the descriptors, whatever is run goes on
with the history as long as it goes through lambdas only. Each descriptor waits, once, or is that of
exactly one unreleased lambda, held or dropped. As many are made as were taken at the same time at
most. Every callable that was ever built, of a released lambda or not, has a descriptor whose entry
point is the router. The descriptor of an unreleased lambda has the first 31 octets of its
identifier for a name. -/
theorem descriptors_kept (h : Custody w peak built) :
    (∀ (n : Nat) (s : Step), s.Obeys False → ∃ peak' more,
        Custody ((Run.step (.level n) s).run w).2 peak' (more ++ built) ∧ peak ≤ peak') ∧
      (∀ (n : Nat) (t : Task) (p : Program t), p.Obeys False → ∃ peak' more,
        Custody ((Run.program (.level n) p).run w).2 peak' (more ++ built) ∧ peak ≤ peak') ∧
      (∀ (n k : Nat) (f : Option Ref) (args : List (Option Ref)), ∃ peak' more,
        Custody (((Recursion.level n).call k f args).run.run w).2 peak' (more ++ built) ∧
          peak ≤ peak') ∧
      (∀ d < w.descriptors.all.size,
        (w.descriptors.waiting.count d = 1 ∧
            ∀ (n : Nat) (l : Lambda), w.lambdas[n]? = some l → l.descriptor ≠ some d) ∨
          (d ∉ w.descriptors.waiting ∧
            ∃! n : Nat, ∃ l : Lambda, w.lambdas[n]? = some l ∧ l.descriptor = some d)) ∧
      (∀ d, d ∈ w.descriptors.waiting ∨
          (∃ (n : Nat) (l : Lambda), w.lambdas[n]? = some l ∧ l.descriptor = some d) →
        d < w.descriptors.all.size) ∧
      w.descriptors.all.size = peak ∧
      (∀ (n : Nat) (l : Lambda), w.lambdas[n]? = some l → ∃ c ∈ built,
        c.machine = l.machine ∧ c.object = l.callable ∧
          ∀ d, l.descriptor = some d → c.descriptor = d) ∧
      (∀ c ∈ built, (∃ slot, w.descriptors.all[c.descriptor]? = some slot ∧
          slot.entry = some .router) ∧
        ∀ k, c.machine = .scripted k → ∃ self : Ref,
          w.outside.store.heap.objects[c.object]? = some (.callable c.descriptor (some self))) ∧
      ∀ (n d : Nat) (l : Lambda), w.lambdas[n]? = some l → l.descriptor = some d →
        ∃ slot, w.descriptors.all[d]? = some slot ∧
          slot.buffer.takeWhile (fun b => b != 0) = l.id.text.toUTF8.toList.take 31 := by
  have hk := h.kept
  refine ⟨fun n s hs => h.reaches (hk.tidy.reaches_step n hs),
    fun n t p hp => h.reaches (hk.tidy.reaches_program n hp),
    fun n k f args => h.reaches (hk.tidy.reaches_call n k f args), fun d hd => ?_, fun d hd => ?_,
    hk.size, fun n l hl => hk.listed hl, fun c hc => ?_, fun n d l hl hd => hk.named hl hd⟩
  · obtain ⟨hwaiting, hheld, hapart⟩ := List.nodup_append.mp hk.shared.nodup
    rcases hk.shared.mem_iff.mpr hd with hmem | hmem
    · refine .inl ⟨List.count_eq_one_of_mem hwaiting hmem, fun n l hl hld => ?_⟩
      exact hapart d hmem d (Lambda.mem_held.mpr ⟨n, l, hl, hld⟩) rfl
    · obtain ⟨n, l, hl, hld⟩ := Lambda.mem_held.mp hmem
      refine .inr ⟨fun hw => hapart d hw d hmem rfl, n, ⟨l, hl, hld⟩, ?_⟩
      rintro n' ⟨l', hl', hld'⟩
      exact Lambda.eq_of_held hheld hl' hld' hl hld
  · exact hk.shared.mem_iff.mp (hd.imp_right Lambda.mem_held.mpr)
  · obtain ⟨hlt, hobject⟩ := hk.holds c hc
    have hslot := Array.getElem?_eq_getElem hlt
    exact ⟨⟨_, hslot, hk.tidy.ready.entry hslot⟩, hobject⟩

/-- Two lambdas are exposed, one of which is dropped; the other is released, and a third one takes
its descriptor, whose buffer holds a longer name. -/
def recycling : List Step := [
  .runtime (.make "main" true), .runtime (.install "main"),
  .expose "a" (.withId "longer") ⟨.object, .object⟩ Closure.echo,
  .expose "b" (.withId "kept") ⟨.object, .object⟩ Closure.echo,
  .handle (.drop "b"), .handle (.release "a"),
  .expose "c" (.withId "c") ⟨.object, .text⟩ Closure.kindName]

theorem obeys_recycling : ∀ s ∈ recycling, s.Obeys False := by
  intro s hs
  simp only [recycling, List.mem_cons, List.not_mem_nil, or_false] at hs
  rcases hs with rfl | rfl | rfl | rfl | rfl | rfl | rfl
  · exact trivial
  · exact trivial
  · exact fun _ => trivial
  · exact fun _ => trivial
  · exact trivial
  · exact trivial
  · exact fun _ => trivial

/-- The released lambda's callable and the new one share a descriptor, of which two are made in
all. -/
theorem descriptors_kept_recycling :
    ∃ built, Custody (taking 1 recycling Trial.fresh) 2 built ∧
      ∃ slot, (taking 1 recycling Trial.fresh).descriptors.all[0]? = some slot ∧
        slot.buffer.takeWhile (fun b => b != 0) = "c".toUTF8.toList.take 31 := by
  have hfresh : Fresh Trial.fresh := ⟨rfl, rfl, rfl, rfl⟩
  obtain ⟨peak, built, h, -⟩ :=
    (Custody.fresh hfresh).reaches (hfresh.tidy.reaches_taking 1 recycling obeys_recycling)
  obtain ⟨-, -, -, -, -, hsize, -, -, hname⟩ := descriptors_kept h
  have hpeak : peak = 2 := hsize.symm.trans rfl
  subst hpeak
  exact ⟨_, h, hname 2 0 _ rfl rfl⟩

end Session

end ClosureBridge
