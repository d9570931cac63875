import ClosureBridge.Proofs.Interpreter.Events
import ClosureBridge.Proofs.Registry.Arena
import Mathlib.Logic.Relation

/-!
# How the state of the library changes

Whatever host code and interpreters do to each other, the state of the library changes in a few
ways only. This module lists them; that every run is made of them is proved beside the runs.

Exposing a closure and releasing a lambda are one change each, since nothing of the host runs while
the library is at it. Host code may also register and unregister closures by itself, behind the back
of the lambdas; programs that never do are told apart, and so are the changes of their runs.

## Main definitions

* `Program.Obeys`, `Step.Obeys`: programs that leave the registry and the descriptors alone, but for
  lambdas, unless they may touch them.
* `Session.Change`: the changes.
* `Session.Reaches`: any number of changes.
* `Session.Advances`: what every run does to the store and to what is captured.
* `Session.Sound`: what every change keeps and needs.
* `Session.Spares`: no lambda is released, the host holds the same ones, and no definition ends.
* `Session.Outlives`: a property that the release of a lambda keeps.
* `Session.Lasting`: a property that every change keeps that the router does not count and a run can
  make, in which registered closures obey.
* `Session.Stable`: a property that every change keeps, in which registered closures obey.

## Main statements

* `Session.Sound.change`: changes keep a sound state sound.
* `Session.stable_reaches`: what is reached from a sound state is a stable property.
* `Session.stable_advances`: so is what is advanced to from any state.
-/

namespace ClosureBridge

/-- A request that leaves the registry and the descriptors alone, unless it may touch them. -/
def RegistryRequest.Obeys (direct : Prop) : RegistryRequest → Prop
  | .unregister _ => direct
  | .descriptors _ _ => direct
  | _ => True

mutual

/-- A program that touches the registry and the descriptors through lambdas only, unless it may do
so directly. -/
def Program.Obeys (direct : Prop) {t : Task} : Program t → Prop
  | .done _ => True
  | .panic _ => True
  | .build _ k => ∀ r, (k r).Obeys direct
  | .lookup _ _ k => ∀ v, (k v).Obeys direct
  | .execute _ _ _ _ k => ∀ r, (k r).Obeys direct
  | .unregister _ k => direct ∧ ∀ b, (k b).Obeys direct
  | .step s k => s.Obeys direct ∧ ∀ outcome, (k outcome).Obeys direct

/-- A step that touches the registry and the descriptors through lambdas only, unless it may do so
directly. -/
def Step.Obeys (direct : Prop) : Step → Prop
  | .saving _ s => s.Obeys direct
  | .registry request => request.Obeys direct
  | .expose _ _ _ call => ∀ args, (call args).Obeys direct
  | .register _ _ call => direct ∧ ∀ args, (call args).Obeys direct
  | .scoped _ _ call body => (∀ args, (call args).Obeys direct) ∧ body.Obeys direct
  | .scopedName _ body => body.Obeys direct
  | .cell _ _ _ handler =>
    match handler with
    | none => True
    | some handler => ∀ directive argument, (handler directive argument).Obeys direct
  | _ => True

end

/-- A closure whose programs touch the registry and the descriptors through lambdas only, unless
they may do so directly. -/
def Closure.Obeys (direct : Prop) (call : Closure) : Prop :=
  ∀ args, (call args).Obeys direct

/-- A program obeys when its parts do. -/
theorem Program.obeys_bind {direct : Prop} {t u : Task} {f : t.Result → Program u}
    (hf : ∀ v, (f v).Obeys direct) : {p : Program t} → p.Obeys direct → (p.bind f).Obeys direct
  | .done v, _ => hf v
  | .panic _, _ => trivial
  | .build _ _, h => fun r => obeys_bind hf (h r)
  | .lookup _ _ _, h => fun v => obeys_bind hf (h v)
  | .execute _ _ _ _ _, h => fun r => obeys_bind hf (h r)
  | .unregister _ _, h => ⟨h.1, fun b => obeys_bind hf (h.2 b)⟩
  | .step _ _, h => ⟨h.1, fun outcome => obeys_bind hf (h.2 outcome)⟩

mutual

/-- A program that may do anything obeys. -/
theorem Program.obeys_of_direct {direct : Prop} (h : direct) {t : Task} :
    (p : Program t) → p.Obeys direct
  | .done _ => trivial
  | .panic _ => trivial
  | .build _ k => fun r => (k r).obeys_of_direct h
  | .lookup _ _ k => fun v => (k v).obeys_of_direct h
  | .execute _ _ _ _ k => fun r => (k r).obeys_of_direct h
  | .unregister _ k => ⟨h, fun b => (k b).obeys_of_direct h⟩
  | .step s k => ⟨s.obeys_of_direct h, fun outcome => (k outcome).obeys_of_direct h⟩

/-- A step that may do anything obeys. -/
theorem Step.obeys_of_direct {direct : Prop} (h : direct) : (s : Step) → s.Obeys direct
  | .saving _ s => s.obeys_of_direct h
  | .runtime _ => trivial
  | .context _ _ => trivial
  | .inspect _ _ => trivial
  | .interface _ _ => trivial
  | .marshal _ _ => trivial
  | .handle _ => trivial
  | .registry request => by cases request <;> first | exact h | trivial
  | .expose _ _ _ call => fun args => (call args).obeys_of_direct h
  | .register _ _ call => ⟨h, fun args => (call args).obeys_of_direct h⟩
  | .scoped _ _ call body => ⟨fun args => (call args).obeys_of_direct h, body.obeys_of_direct h⟩
  | .scopedName _ body => body.obeys_of_direct h
  | .cell _ _ _ none => trivial
  | .cell _ _ _ (some handler) => fun directive argument =>
    (handler directive argument).obeys_of_direct h

end

/-- A lambda written as source text that is neither defined nor being defined. -/
def SourceLambda.IsIdle (l : SourceLambda) : Prop :=
  l.global = none ∧ l.pending = none

namespace Session

/-- The state in which a lambda written as source text is being defined, under the name that is
drawn next. -/
def attempting (w : Session) (n : Nat) : Session :=
  { w with
    sourceIds := w.sourceIds.next.2
    sources := w.sources.modify n (SourceLambda.begun w.sourceIds.next.1) }

/-- The state after the definition of a lambda written as source text. -/
def settled (w : Session) (n : Nat) (ok : Bool) : Session :=
  { w with sources := w.sources.modify n (SourceLambda.ended ok) }

/-- In a scripted interpreter a callable is the object that calls the router with a descriptor and
the text of an identifier. -/
def Exposes (store : Script.Store) (m : MachineId) (descriptor : Nat) (callable : Ref)
    (id : Ident) : Prop :=
  ∀ n, m = .scripted n → ∃ self : Ref,
    store.heap.objects[callable]? = some (.callable descriptor (some self)) ∧
      store.heap.objects[self]? = some (.text id.crossing)

/-- One change of the state of the library. -/
inductive Change (direct : Prop) : Session → Session → Prop where
  /-- An interpreter, or what lies on the bench, changes. -/
  | outside {w : Session} {o : Bench.Outside} (h : w.outside.store.Grows o.store) :
    Change direct w { w with outside := o }
  /-- The router counts. -/
  | counted {w : Session} (f : Stats → Stats) : Change direct w { w with stats := f w.stats }
  /-- An identifier is drawn for an exposed closure. -/
  | lambdaDrawn {w : Session} : Change direct w { w with lambdaIds := w.lambdaIds.next.2 }
  /-- The first interpreter is bound. -/
  | bound {w : Session} (m : MachineId) (h : w.bound = none) :
    Change direct w { w with bound := some m }
  /-- A context is opened, or captures output from now on. -/
  | capturing {w : Session} (c : Array Bool) : Change direct w { w with capturing := c }
  /-- A lambda written as source text is kept. -/
  | kept {w : Session} {l : SourceLambda} (hl : l.IsIdle) :
    Change direct w { w with sources := w.sources.push l }
  /-- An identifier is drawn for a lambda written as source text, to define it. -/
  | begun {w : Session} {n : Nat} {l : SourceLambda} (hl : w.sources[n]? = some l)
    (hidle : l.IsIdle) : Change direct w (w.attempting n)
  /-- The definition of a lambda written as source text ends, if it is being defined. -/
  | ended {w : Session} (n : Nat) (ok : Bool) : Change direct w (w.settled n ok)
  /-- A closure is exposed. -/
  | exposed {w : Session} {id : Ident} {shape : Shape} {call : Closure} {m : MachineId}
    {callable : Ref} {registry : Registry Closure} {o : Bench.Outside}
    (hcall : call.Obeys direct)
    (hid : w.lambdaIds.stem = Ident.lambdaStem → id.crossing = id.text)
    (hr : w.registry.insert id shape call = .ok registry)
    (h : w.outside.store.Grows o.store)
    (hc : Exposes o.store m (w.descriptors.acquire id).1 callable id) :
    Change direct w { w with
      registry
      descriptors := (w.descriptors.acquire id).2
      lambdas := w.lambdas.push
        ⟨id, shape, call, m, callable, some (w.descriptors.acquire id).1⟩
      outside := o }
  /-- A closure is registered, and taken out again because its callable cannot be built. -/
  | abandoned {w : Session} {id : Ident} {shape : Shape} {call : Closure}
    {registry : Registry Closure} {o : Bench.Outside}
    (hr : w.registry.insert id shape call = .ok registry)
    (h : w.outside.store.Grows o.store) :
    Change direct w { w with
      registry := (registry.remove id).2
      descriptors := (w.descriptors.acquire id).2.release (w.descriptors.acquire id).1
      outside := o }
  /-- A lambda is released. -/
  | released {w : Session} {n d : Nat} {l : Lambda} {o : Bench.Outside}
    (hl : w.lambdas[n]? = some l) (hd : l.descriptor = some d)
    (h : w.outside.store.Grows o.store) :
    Change direct w { w with
      registry := (w.registry.remove l.id).2
      descriptors := w.descriptors.release d
      lambdas := w.lambdas.setIfInBounds n { l with descriptor := none }
      outside := o }
  /-- A closure is registered directly. -/
  | registered {w : Session} {id : Ident} {shape : Shape} {call : Closure}
    {registry : Registry Closure} (hd : direct) (hcall : call.Obeys direct)
    (hr : w.registry.insert id shape call = .ok registry) :
    Change direct w { w with registry }
  /-- A closure is taken out of the registry directly. -/
  | unregistered {w : Session} (hd : direct) (id : Ident) :
    Change direct w { w with registry := (w.registry.remove id).2 }
  /-- A descriptor is taken directly. -/
  | taken {w : Session} (hd : direct) (id : Ident) :
    Change direct w { w with descriptors := (w.descriptors.acquire id).2 }
  /-- A descriptor is given back directly. -/
  | given {w : Session} (hd : direct) (n : Nat) :
    Change direct w { w with descriptors := w.descriptors.release n }

/-- Any number of changes. -/
abbrev Reaches (direct : Prop) : Session → Session → Prop :=
  Relation.ReflTransGen (Change direct)

/-- Events happen in the store, and a context that captures output goes on doing so. -/
structure Advances (w w' : Session) : Prop where
  events : w.outside.store.Leads w'.outside.store
  capturing : ∀ {i : Nat}, w.capturing[i]? = some true → w'.capturing[i]? = some true

/-- The registry is coherent and its closures obey, and fresh identifiers have the stem of
lambdas. -/
structure Sound (direct : Prop) (w : Session) : Prop where
  coherent : w.registry.Coherent
  closures : ∀ id shape call, w.registry.get? id = some (shape, call) → call.Obeys direct
  stem : w.lambdaIds.stem = Ident.lambdaStem

/-- No lambda is released, those that the host holds under names are the same, and a lambda written
as source text that is being defined is left alone. -/
structure Spares (w w' : Session) : Prop where
  lambdas : ∀ {n : Nat} {l : Lambda}, w.lambdas[n]? = some l → w'.lambdas[n]? = some l
  desk : w'.outside.rest.desk.lambdas = w.outside.rest.desk.lambdas
  sources : ∀ {n : Nat} {l : SourceLambda}, w.sources[n]? = some l → l.pending ≠ none →
    w'.sources[n]? = some l

/-- The state after the host has put something on the desk or taken it off. -/
def onDesk (w : Session) (f : Desk → Desk) : Session :=
  { w with outside := { w.outside with rest :=
      { w.outside.rest with desk := f w.outside.rest.desk } } }

/-- A property of states that every change keeps that spares the lambdas and that the router does
not count. -/
structure Abiding (direct : Prop) (P : Session → Prop) : Prop where
  change : ∀ {w w' : Session}, Change direct w w' → Advances w w' → w'.stats = w.stats →
    Spares w w' → P w → P w'

/-- A property of states that the release of a lambda keeps. -/
structure Outlives (P : Session → Prop) (n : Nat) : Prop where
  released : ∀ {w : Session} {l : Lambda} {d : Nat} {o : Bench.Outside},
    w.lambdas[n]? = some l → l.descriptor = some d → w.outside.store.Leads o.store →
    o.rest.desk = w.outside.rest.desk → P w →
    P { w with
      registry := (w.registry.remove l.id).2
      descriptors := w.descriptors.release d
      lambdas := w.lambdas.setIfInBounds n { l with descriptor := none }
      outside := o }

/-- A property of states that every change keeps that the router does not count and that a run can
make, and in which every registered closure obeys. A run releases no lambdas but those that the host
holds under names and those that it has exposed itself, and it ends no definitions but those that it
has begun itself. -/
structure Lasting (direct : Prop) (P : Session → Prop) : Prop extends Abiding direct P where
  closures : ∀ {w : Session}, P w → ∀ id shape call,
    w.registry.get? id = some (shape, call) → call.Obeys direct
  /-- A lambda that the host holds may be released. -/
  held : ∀ {w : Session} {name : String} {n : Nat}, P w →
    w.outside.rest.desk.lambdas.get? name = some n → Outlives P n
  /-- So may the next lambda that is exposed. -/
  next : ∀ {w : Session}, P w → Outlives P w.lambdas.size
  /-- The host may hold a lambda that has been exposed. -/
  holding : ∀ {w v : Session} (name : String), P w → P v → Spares w v →
    w.lambdas.size < v.lambdas.size →
    P (v.onDesk fun d => { d with lambdas := d.lambdas.insert name w.lambdas.size })
  /-- The host may let a lambda go. -/
  dropping : ∀ {w : Session} (name : String), P w →
    P (w.onDesk fun d => { d with lambdas := d.lambdas.erase name })
  /-- The definition of a lambda may end that was not being defined before. -/
  settling : ∀ {w v : Session} {n : Nat} {l : SourceLambda} (ok : Bool), P w →
    w.sources[n]? = some l → l.IsIdle → P v → P (v.settled n ok)

/-- A property of states that every change keeps, and in which every registered closure obeys. -/
structure Stable (direct : Prop) (P : Session → Prop) : Prop extends Lasting direct P where
  counted : ∀ {w : Session} (f : Stats → Stats), P w → P { w with stats := f w.stats }

variable {direct : Prop} {w w' : Session}

namespace Advances

/-- Events in the store alone. -/
theorem of_leads (hs : w.outside.store.Leads w'.outside.store) (hc : w'.capturing = w.capturing) :
    Advances w w' where
  events := hs
  capturing h := by rw [hc, h]

/-- A change that the store and what is captured have no part in. -/
theorem of_eq (hs : w'.outside.store = w.outside.store) (hc : w'.capturing = w.capturing) :
    Advances w w' :=
  of_leads ⟨[], hs⟩ hc

theorem refl (w : Session) : Advances w w :=
  of_eq rfl rfl

theorem trans {u v w : Session} (h : Advances u v) (h' : Advances v w) : Advances u w where
  events := h.events.trans h'.events
  capturing hi := h'.capturing (h.capturing hi)

end Advances

namespace Spares

/-- A change that the lambdas have no part in. -/
theorem of_eq (hl : w'.lambdas = w.lambdas)
    (hd : w'.outside.rest.desk = w.outside.rest.desk)
    (hs : w'.sources = w.sources) : Spares w w' where
  lambdas h := by rw [hl, h]
  desk := by rw [hd]
  sources h _ := by rw [hs, h]

/-- A lambda is added. -/
theorem push (l : Lambda) (hl : w'.lambdas = w.lambdas.push l)
    (hd : w'.outside.rest.desk = w.outside.rest.desk)
    (hs : w'.sources = w.sources) : Spares w w' where
  lambdas {n _} h := by
    have hn : n < w.lambdas.size := (Array.getElem?_eq_some_iff.mp h).1
    rw [hl, Array.getElem?_push, if_neg (Nat.ne_of_lt hn), h]
  desk := by rw [hd]
  sources h _ := by rw [hs, h]

/-- A lambda written as source text is added. -/
theorem kept (w : Session) (l : SourceLambda) :
    Spares w { w with sources := w.sources.push l } where
  lambdas h := h
  desk := rfl
  sources {n _} h _ := by
    have hn : n < w.sources.size := (Array.getElem?_eq_some_iff.mp h).1
    rw [Array.getElem?_push, if_neg (Nat.ne_of_lt hn), h]

/-- The definition of another lambda begins. -/
theorem attempting {n : Nat} {l : SourceLambda} (hl : w.sources[n]? = some l) (hidle : l.IsIdle) :
    Spares w (w.attempting n) where
  lambdas h := h
  desk := rfl
  sources {n' l'} h hpending := by
    have hne : n ≠ n' := by
      rintro rfl
      cases hl.symm.trans h
      exact hpending hidle.2
    rw [Session.attempting, Array.getElem?_modify, if_neg hne, h]

theorem refl (w : Session) : Spares w w :=
  of_eq rfl rfl rfl

theorem trans {u v w : Session} (h : Spares u v) (h' : Spares v w) : Spares u w where
  lambdas hl := h'.lambdas (h.lambdas hl)
  desk := h'.desk.trans h.desk
  sources hl hpending := h'.sources (h.sources hl hpending) hpending

end Spares

/-- To spare the lambdas of a state abides. -/
theorem abiding_spares (w : Session) : Abiding direct (Spares w) where
  change _ _ _ hs hw := hw.trans hs

/-- A property that all changes keep that the router does not count lasts. -/
theorem Lasting.of_change {P : Session → Prop}
    (hc : ∀ {w w' : Session}, Change direct w w' → Advances w w' → w'.stats = w.stats → P w → P w')
    (closures : ∀ {w : Session}, P w → ∀ id shape call,
      w.registry.get? id = some (shape, call) → call.Obeys direct) : Lasting direct P :=
  have outlives (n : Nat) : Outlives P n := ⟨fun hl hd hs _ hw =>
    hc (.released hl hd hs.grows) (.of_leads hs rfl) rfl hw⟩
  have onDesk {w : Session} (f : Desk → Desk) (hw : P w) : P (w.onDesk f) :=
    hc (.outside (.refl _)) (.of_eq rfl rfl) rfl hw
  { change := fun h ha hs _ hw => hc h ha hs hw
    closures
    held := fun _ _ => outlives _
    next := fun _ => outlives _
    holding := fun _ _ hv _ _ => onDesk _ hv
    dropping := fun _ hw => onDesk _ hw
    settling := fun ok _ _ _ hv => hc (.ended _ ok) (.of_eq rfl rfl) rfl hv }

/-- What a registration leaves obeys, when what it adds does. -/
theorem Sound.closures_insert (h : Sound direct w) {id : Ident} {shape : Shape} {call : Closure}
    {registry : Registry Closure} (hcall : call.Obeys direct)
    (hr : w.registry.insert id shape call = .ok registry) (other : Ident) (shape' : Shape)
    (call' : Closure) (hget : registry.get? other = some (shape', call')) :
    call'.Obeys direct := by
  rw [h.coherent.get?_insert hr] at hget
  split at hget
  · cases hget
    exact hcall
  · exact h.closures other shape' call' hget

/-- What a removal leaves was there before it. -/
theorem get?_of_get?_remove {r : Registry Closure} (h : r.Coherent) {id other : Ident}
    {e : Shape × Closure} (hget : (r.remove id).2.get? other = some e) :
    other ≠ id ∧ r.get? other = some e := by
  rw [h.get?_remove] at hget
  split at hget
  · cases hget
  · next ho => exact ⟨ho, hget⟩

/-- A registration that is taken back leaves what was there before it. -/
theorem get?_remove_insert {r r' : Registry Closure} (h : r.Coherent) {id : Ident} {shape : Shape}
    {call : Closure} (hr : r.insert id shape call = .ok r') (other : Ident) :
    (r'.remove id).2.get? other = r.get? other := by
  obtain ⟨hid, hr', -⟩ := h.of_insert hr
  rw [hr'.get?_remove, h.get?_insert hr]
  split
  · next ho => rw [ho, h.get?_eq_none_iff.mpr hid]
  · rfl

/-- Changes keep the registry coherent. -/
theorem Change.coherent (hc : Change direct w w') (h : w.registry.Coherent) :
    w'.registry.Coherent := by
  cases hc with
  | exposed _ _ hr _ _ => exact (h.of_insert hr).2.1
  | abandoned hr _ => exact ((h.of_insert hr).2.1.remove _).2.1
  | released _ _ _ => exact (h.remove _).2.1
  | registered _ _ hr => exact (h.of_insert hr).2.1
  | unregistered _ id => exact (h.remove id).2.1
  | _ => exact h

/-- Changes keep a sound state sound. -/
theorem Sound.change (hc : Change direct w w') (h : Sound direct w) : Sound direct w' := by
  have hcoherent : w'.registry.Coherent := hc.coherent h.coherent
  cases hc with
  | exposed hcall _ hr _ _ => exact ⟨hcoherent, h.closures_insert hcall hr, h.stem⟩
  | abandoned hr _ =>
    refine ⟨hcoherent, fun other shape call hget => ?_, h.stem⟩
    rw [get?_remove_insert h.coherent hr] at hget
    exact h.closures other shape call hget
  | released _ _ _ =>
    exact ⟨hcoherent, fun other shape call hget =>
      h.closures other shape call (get?_of_get?_remove h.coherent hget).2, h.stem⟩
  | registered _ hcall hr => exact ⟨hcoherent, h.closures_insert hcall hr, h.stem⟩
  | unregistered _ id =>
    exact ⟨hcoherent, fun other shape call hget =>
      h.closures other shape call (get?_of_get?_remove h.coherent hget).2, h.stem⟩
  | _ => exact ⟨hcoherent, h.closures, h.stem⟩

theorem Sound.reaches (hw : Reaches direct w w') (h : Sound direct w) : Sound direct w' := by
  induction hw with
  | refl => exact h
  | tail _ hc ih => exact ih.change hc

/-- What is reached from a sound state is a stable property. -/
theorem stable_reaches (h : Sound direct w) : Stable direct (Reaches direct w) where
  toLasting := .of_change (fun hc _ _ hw => hw.tail hc) fun hw => (h.reaches hw).closures
  counted f hw := hw.tail (.counted f)

/-- Where closures may do anything, what is reached from any state is a stable property. -/
theorem stable_reaches_of_direct (h : direct) (w : Session) : Stable direct (Reaches direct w) where
  toLasting := .of_change (fun hc _ _ hw => hw.tail hc)
    fun _ _ _ call _ args => (call args).obeys_of_direct h
  counted f hw := hw.tail (.counted f)

/-- Having been advanced to from a state is a stable property. -/
theorem stable_advances (w : Session) : Stable True (Advances w) where
  toLasting := .of_change (fun _ ha _ hw => hw.trans ha)
    fun _ _ _ call _ args => (call args).obeys_of_direct trivial
  counted _ hw := hw.trans (.of_eq rfl rfl)

/-- The interpreter that is bound stays. -/
theorem Change.bound_eq (hc : Change direct w w') {m : MachineId} (hm : w.bound = some m) :
    w'.bound = some m := by
  cases hc with
  | bound _ h =>
    rw [hm] at h
    cases h
  | _ => exact hm

theorem bound_of_reaches (hw : Reaches direct w w') {m : MachineId} (hm : w.bound = some m) :
    w'.bound = some m := by
  induction hw with
  | refl => exact hm
  | tail _ hc ih => exact hc.bound_eq ih

/-- Every change lets the store grow. -/
theorem Change.grows (hc : Change direct w w') : w.outside.store.Grows w'.outside.store := by
  cases hc with
  | outside h => exact h
  | exposed _ _ _ h _ => exact h
  | abandoned _ h => exact h
  | released _ _ h => exact h
  | _ => exact .refl _

theorem grows_of_reaches (hw : Reaches direct w w') :
    w.outside.store.Grows w'.outside.store := by
  induction hw with
  | refl => exact .refl _
  | tail _ hc ih => exact ih.trans hc.grows

end Session

end ClosureBridge
