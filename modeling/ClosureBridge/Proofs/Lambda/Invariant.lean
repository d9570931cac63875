import ClosureBridge.Proofs.Session.Change

/-!
# Lambdas, the registry and the callables

As long as the registry and the descriptors are reached through lambdas only, the registry is the
map of the lambdas that are not released, and the callable of every lambda, released or not, enters
the router with the text of its identifier.

## Main definitions

* `Unreleased`: a lambda that has been exposed and not released, held or dropped.
* `Registry.Maps`: a registry is the map of the unreleased lambdas.
* `Session.Wired`: the callable of a lambda enters the router with the text of its identifier.
* `Session.Tidy`: both, and what they need of the descriptors.

## Main statements

* `Registry.Maps.push`, `Registry.Maps.release`: a lambda exposed, and one released.
* `Session.Tidy.reaches`: changes that go through lambdas keep a tidy state tidy.
-/

namespace ClosureBridge

namespace DescriptorPool

/-- Every descriptor enters the router, and those that wait are among those made. -/
structure Ready (p : DescriptorPool) : Prop where
  entry : ∀ {n : Nat} {d : Descriptor}, p.all[n]? = some d → d.entry = some .router
  waiting : ∀ n ∈ p.waiting, n < p.all.size

theorem ready_empty : Ready {} where
  entry h := by simp at h
  waiting n h := by cases h

variable {p : DescriptorPool}

theorem size_acquire_le (p : DescriptorPool) (id : Ident) :
    p.all.size ≤ (p.acquire id).2.all.size := by
  unfold acquire
  split <;> simp

namespace Ready

/-- The descriptor that is taken is among those made. -/
theorem acquire_lt (h : p.Ready) (id : Ident) : (p.acquire id).1 < (p.acquire id).2.all.size := by
  unfold acquire
  split
  · next n waiting hw =>
    have hn : n < p.all.size := h.waiting n (by rw [hw]; exact List.mem_cons_self)
    simpa using hn
  · simp

theorem acquire (h : p.Ready) (id : Ident) : (p.acquire id).2.Ready := by
  unfold DescriptorPool.acquire
  split
  · next n waiting hw =>
    refine ⟨fun {m d} hd => ?_, fun m hm => ?_⟩
    · by_cases hnm : n = m
      · subst hnm
        rw [Array.getElem?_modify, if_pos rfl, Option.map_eq_some_iff] at hd
        obtain ⟨old, -, rfl⟩ := hd
        exact Descriptor.entry_assign old id
      · rw [Array.getElem?_modify, if_neg hnm] at hd
        exact h.entry hd
    · have hlt : m < p.all.size := h.waiting m (by rw [hw]; exact List.mem_cons_of_mem _ hm)
      simpa using hlt
  · refine ⟨fun {m d} hd => ?_, fun m hm => by cases hm⟩
    rw [Array.getElem?_push] at hd
    split at hd
    · cases hd
      exact Descriptor.entry_assign _ id
    · exact h.entry hd

theorem release (h : p.Ready) {n : Nat} (hn : n < p.all.size) : (p.release n).Ready := by
  refine ⟨h.entry, fun m hm => ?_⟩
  rcases List.mem_cons.mp hm with rfl | hm
  · exact hn
  · exact h.waiting m hm

end Ready

end DescriptorPool

/-- A lambda that has been exposed and not released, held or dropped. -/
def Unreleased (lambdas : Array Lambda) (n : Nat) (l : Lambda) : Prop :=
  lambdas[n]? = some l ∧ l.descriptor.isSome = true

section

variable {lambdas : Array Lambda} {l l' : Lambda} {n m : Nat}

theorem unreleased_push (hl : l.descriptor.isSome = true) :
    Unreleased (lambdas.push l) m l' ↔ Unreleased lambdas m l' ∨ m = lambdas.size ∧ l' = l := by
  unfold Unreleased
  rw [Array.getElem?_push]
  by_cases hm : m = lambdas.size
  · subst hm
    have hnone : lambdas[lambdas.size]? = none := by simp
    rw [if_pos rfl, hnone]
    constructor
    · rintro ⟨h, -⟩
      cases h
      exact .inr ⟨rfl, rfl⟩
    · rintro (⟨h, -⟩ | ⟨-, rfl⟩)
      · cases h
      · exact ⟨rfl, hl⟩
  · simp [hm]

theorem unreleased_release (hl : lambdas[n]? = some l) :
    Unreleased (lambdas.setIfInBounds n { l with descriptor := none }) m l' ↔
      m ≠ n ∧ Unreleased lambdas m l' := by
  unfold Unreleased
  by_cases hm : n = m
  · subst hm
    have hlt : n < lambdas.size := (Array.getElem?_eq_some_iff.mp hl).1
    rw [Array.getElem?_setIfInBounds_self_of_lt hlt]
    constructor
    · rintro ⟨h, hd⟩
      cases h
      cases hd
    · rintro ⟨h, -⟩
      exact absurd rfl h
  · rw [Array.getElem?_setIfInBounds_ne hm]
    simp [Ne.symm hm]

end

/-- The registry is the map of the unreleased lambdas: it sends their identifiers, which are
distinct, to their shapes and closures. -/
structure Registry.Maps (r : Registry Closure) (lambdas : Array Lambda) : Prop where
  get?_iff : ∀ {id : Ident} {shape : Shape} {call : Closure}, r.get? id = some (shape, call) ↔
    ∃ n l, Unreleased lambdas n l ∧ l.id = id ∧ l.shape = shape ∧ l.call = call
  distinct : ∀ {n n' : Nat} {l l' : Lambda},
    Unreleased lambdas n l → Unreleased lambdas n' l' → l.id = l'.id → n = n'

namespace Registry.Maps

variable {r r' : Registry Closure} {lambdas : Array Lambda} {l : Lambda} {n : Nat}

theorem empty : Maps {} #[] where
  get?_iff := by
    intro id shape call
    constructor
    · intro h
      cases h
    · rintro ⟨n, l, ⟨h, -⟩, -⟩
      simp at h
  distinct := by
    rintro n n' l l' ⟨h, -⟩
    simp at h

/-- What an unreleased lambda is registered as. -/
theorem get?_eq (h : r.Maps lambdas) (hl : Unreleased lambdas n l) :
    r.get? l.id = some (l.shape, l.call) :=
  h.get?_iff.mpr ⟨n, l, hl, rfl, rfl, rfl⟩

/-- Nothing else is registered. -/
theorem get?_eq_none (h : r.Maps lambdas) {id : Ident}
    (hid : ∀ n l, Unreleased lambdas n l → l.id ≠ id) : r.get? id = none := by
  cases hget : r.get? id with
  | none => rfl
  | some e =>
    obtain ⟨n, l, hl, hi, -⟩ := h.get?_iff.mp hget
    exact absurd hi (hid n l hl)

/-- A registry that finds the same maps the same lambdas. -/
theorem of_get? (h : r.Maps lambdas) (hr : ∀ id, r'.get? id = r.get? id) : r'.Maps lambdas where
  get?_iff := by
    intro id shape call
    rw [hr]
    exact h.get?_iff
  distinct := h.distinct

/-- A lambda is exposed. -/
theorem push (h : r.Maps lambdas) (hc : r.Coherent)
    (hr : r.insert l.id l.shape l.call = .ok r') (hl : l.descriptor.isSome = true) :
    r'.Maps (lambdas.push l) := by
  have hnone : r.get? l.id = none := hc.get?_eq_none_iff.mpr (hc.of_insert hr).1
  have hfresh : ∀ n l', Unreleased lambdas n l' → l'.id ≠ l.id := by
    intro n l' hl' hid
    have hget := h.get?_eq hl'
    rw [hid, hnone] at hget
    cases hget
  constructor
  · intro id shape call
    rw [hc.get?_insert hr]
    by_cases hid : id = l.id
    · rw [if_pos hid]
      constructor
      · intro he
        cases he
        exact ⟨_, l, (unreleased_push hl).mpr (.inr ⟨rfl, rfl⟩), hid.symm, rfl, rfl⟩
      · rintro ⟨n, l', hl', hi, rfl, rfl⟩
        rcases (unreleased_push hl).mp hl' with hl' | ⟨-, rfl⟩
        · exact absurd (hi.trans hid) (hfresh n l' hl')
        · rfl
    · rw [if_neg hid, h.get?_iff]
      constructor
      · rintro ⟨n, l', hl', he⟩
        exact ⟨n, l', (unreleased_push hl).mpr (.inl hl'), he⟩
      · rintro ⟨n, l', hl', hi, he⟩
        rcases (unreleased_push hl).mp hl' with hl' | ⟨-, rfl⟩
        · exact ⟨n, l', hl', hi, he⟩
        · exact absurd hi.symm hid
  · intro n n' l₁ l₂ h₁ h₂ hid
    rcases (unreleased_push hl).mp h₁ with hu₁ | ⟨hn₁, he₁⟩
    · rcases (unreleased_push hl).mp h₂ with hu₂ | ⟨hn₂, he₂⟩
      · exact h.distinct hu₁ hu₂ hid
      · exact absurd (hid.trans (by rw [he₂])) (hfresh n l₁ hu₁)
    · rcases (unreleased_push hl).mp h₂ with hu₂ | ⟨hn₂, he₂⟩
      · exact absurd (hid.symm.trans (by rw [he₁])) (hfresh n' l₂ hu₂)
      · rw [hn₁, hn₂]

/-- A lambda is released. -/
theorem release (h : r.Maps lambdas) (hc : r.Coherent) (hl : Unreleased lambdas n l) :
    (r.remove l.id).2.Maps (lambdas.setIfInBounds n { l with descriptor := none }) := by
  constructor
  · intro id shape call
    rw [hc.get?_remove]
    by_cases hid : id = l.id
    · rw [if_pos hid]
      constructor
      · intro he
        cases he
      · rintro ⟨m, l', hl', hi, -⟩
        obtain ⟨hm, hl'⟩ := (unreleased_release hl.1).mp hl'
        exact absurd (h.distinct hl' hl (hi.trans hid)) hm
    · rw [if_neg hid, h.get?_iff]
      constructor
      · rintro ⟨m, l', hl', hi, he⟩
        refine ⟨m, l', (unreleased_release hl.1).mpr ⟨?_, hl'⟩, hi, he⟩
        rintro rfl
        have hll : l' = l := Option.some.inj (hl'.1.symm.trans hl.1)
        exact hid (by rw [← hi, hll])
      · rintro ⟨m, l', hl', he⟩
        exact ⟨m, l', ((unreleased_release hl.1).mp hl').2, he⟩
  · intro m m' l₁ l₂ h₁ h₂ hid
    exact h.distinct ((unreleased_release hl.1).mp h₁).2 ((unreleased_release hl.1).mp h₂).2 hid

end Registry.Maps

namespace Session

/-- The callable of a lambda in a scripted interpreter enters the router with the text of the
lambda's identifier. -/
def Wired (w : Session) (l : Lambda) : Prop :=
  ∀ k, l.machine = .scripted k → ∃ (d : Nat) (self : Ref),
    w.outside.store.heap.objects[l.callable]? = some (.callable d (some self)) ∧
      d < w.descriptors.all.size ∧
      w.outside.store.heap.objects[self]? = some (.text l.id.text)

variable {w w' : Session} {l : Lambda}

/-- A lambda stays wired. -/
theorem Wired.grows (h : Wired w l) (hg : w.outside.store.Grows w'.outside.store)
    (hs : w.descriptors.all.size ≤ w'.descriptors.all.size) : Wired w' l := by
  intro k hk
  obtain ⟨d, self, hc, hd, ht⟩ := h k hk
  exact ⟨d, self, hg.fixed hc rfl, Nat.lt_of_lt_of_le hd hs, hg.fixed ht rfl⟩

/-- The registry is the map of the unreleased lambdas, and every lambda, released or not, is
wired. -/
structure Tidy (w : Session) : Prop where
  sound : Sound False w
  maps : w.registry.Maps w.lambdas
  ready : w.descriptors.Ready
  taken : ∀ {n d : Nat} {l : Lambda}, w.lambdas[n]? = some l → l.descriptor = some d →
    d < w.descriptors.all.size
  wired : ∀ {n : Nat} {l : Lambda}, w.lambdas[n]? = some l → Wired w l

/-- A state before the first lambda. -/
structure Fresh (w : Session) : Prop where
  registry : w.registry = {}
  descriptors : w.descriptors = {}
  lambdas : w.lambdas = #[]
  stem : w.lambdaIds.stem = Ident.lambdaStem

theorem Fresh.tidy (h : Fresh w) : Tidy w where
  sound := by
    refine ⟨?_, ?_, h.stem⟩
    · rw [h.registry]
      exact Registry.coherent_empty
    · rw [h.registry]
      intro id shape call hget
      cases hget
  maps := by
    rw [h.registry, h.lambdas]
    exact Registry.Maps.empty
  ready := by
    rw [h.descriptors]
    exact DescriptorPool.ready_empty
  taken hl := by simp [h.lambdas] at hl
  wired hl := by simp [h.lambdas] at hl

namespace Tidy

/-- Descriptors and callables stay usable when nothing but the interpreters changes. -/
theorem grow (h : Tidy w) {o : Bench.Outside} (hg : w.outside.store.Grows o.store) :
    Tidy { w with outside := o } where
  sound := h.sound.change (.outside hg)
  maps := h.maps
  ready := h.ready
  taken := h.taken
  wired hl := (h.wired hl).grows hg (Nat.le_refl _)

theorem exposed (h : Tidy w) {id : Ident} {shape : Shape} {call : Closure} {m : MachineId}
    {callable : Ref} {registry : Registry Closure} {o : Bench.Outside}
    (hcall : call.Obeys False)
    (hid : w.lambdaIds.stem = Ident.lambdaStem → id.crossing = id.text)
    (hr : w.registry.insert id shape call = .ok registry) (hg : w.outside.store.Grows o.store)
    (hc : Exposes o.store m (w.descriptors.acquire id).1 callable id) :
    Tidy { w with
      registry
      descriptors := (w.descriptors.acquire id).2
      lambdas := w.lambdas.push
        ⟨id, shape, call, m, callable, some (w.descriptors.acquire id).1⟩
      outside := o } := by
  have hsize := DescriptorPool.size_acquire_le w.descriptors id
  have hlt := h.ready.acquire_lt id
  refine ⟨h.sound.change (.exposed hcall hid hr hg hc), ?_, h.ready.acquire id, ?_, ?_⟩
  · exact h.maps.push h.sound.coherent hr rfl
  · intro n d l hl hd
    rw [Array.getElem?_push] at hl
    split at hl
    · cases hl
      cases hd
      exact hlt
    · exact Nat.lt_of_lt_of_le (h.taken hl hd) hsize
  · intro n l hl
    rw [Array.getElem?_push] at hl
    split at hl
    · cases hl
      intro k hk
      obtain ⟨self, hobject, htext⟩ := hc k hk
      rw [hid h.sound.stem] at htext
      exact ⟨_, self, hobject, hlt, htext⟩
    · exact (h.wired hl).grows hg hsize

theorem abandoned (h : Tidy w) {id : Ident} {shape : Shape} {call : Closure}
    {registry : Registry Closure} {o : Bench.Outside}
    (hr : w.registry.insert id shape call = .ok registry) (hg : w.outside.store.Grows o.store) :
    Tidy { w with
      registry := (registry.remove id).2
      descriptors := (w.descriptors.acquire id).2.release (w.descriptors.acquire id).1
      outside := o } := by
  have hsize := DescriptorPool.size_acquire_le w.descriptors id
  refine ⟨h.sound.change (.abandoned hr hg), ?_, ?_, ?_, ?_⟩
  · exact h.maps.of_get? (get?_remove_insert h.sound.coherent hr)
  · exact (h.ready.acquire id).release (h.ready.acquire_lt id)
  · intro n d l hl hd
    exact Nat.lt_of_lt_of_le (h.taken hl hd) hsize
  · intro n l hl
    exact (h.wired hl).grows hg hsize

theorem released (h : Tidy w) {n d : Nat} {l : Lambda} {o : Bench.Outside}
    (hl : w.lambdas[n]? = some l) (hd : l.descriptor = some d)
    (hg : w.outside.store.Grows o.store) :
    Tidy { w with
      registry := (w.registry.remove l.id).2
      descriptors := w.descriptors.release d
      lambdas := w.lambdas.setIfInBounds n { l with descriptor := none }
      outside := o } := by
  have hlt : n < w.lambdas.size := (Array.getElem?_eq_some_iff.mp hl).1
  refine ⟨h.sound.change (.released hl hd hg), ?_, h.ready.release (h.taken hl hd), ?_, ?_⟩
  · exact h.maps.release h.sound.coherent ⟨hl, by rw [hd]; rfl⟩
  · intro m d' l' hl' hd'
    by_cases hm : n = m
    · subst hm
      rw [Array.getElem?_setIfInBounds_self_of_lt hlt] at hl'
      cases hl'
      cases hd'
    · rw [Array.getElem?_setIfInBounds_ne hm] at hl'
      exact h.taken hl' hd'
  · intro m l' hl'
    by_cases hm : n = m
    · subst hm
      rw [Array.getElem?_setIfInBounds_self_of_lt hlt] at hl'
      cases hl'
      exact (h.wired hl).grows hg (Nat.le_refl _)
    · rw [Array.getElem?_setIfInBounds_ne hm] at hl'
      exact (h.wired hl').grows hg (Nat.le_refl _)

/-- Changes that go through lambdas keep a tidy state tidy. -/
theorem change (h : Tidy w) (hc : Change False w w') : Tidy w' := by
  have hs : Sound False w' := h.sound.change hc
  cases hc with
  | outside hg => exact h.grow hg
  | exposed hcall hid hr hg hc => exact h.exposed hcall hid hr hg hc
  | abandoned hr hg => exact h.abandoned hr hg
  | released hl hd hg => exact h.released hl hd hg
  | registered hd _ _ => exact hd.elim
  | unregistered hd _ => exact hd.elim
  | taken hd _ => exact hd.elim
  | given hd _ => exact hd.elim
  | _ => exact ⟨hs, h.maps, h.ready, h.taken, h.wired⟩

theorem reaches (h : Tidy w) (hw : Reaches False w w') : Tidy w' := by
  induction hw with
  | refl => exact h
  | tail _ hc ih => exact ih.change hc

end Tidy

end Session

end ClosureBridge
