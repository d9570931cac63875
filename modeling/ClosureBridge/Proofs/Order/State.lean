import ClosureBridge.Bench.Trial
import ClosureBridge.Proofs.Order.Host
import ClosureBridge.Proofs.Session.Change

/-!
# Orderly states

What the library keeps beside the store refers to objects too: contexts to their namespaces, exposed
lambdas to their callables, the desk to what was saved. In an orderly state all of this is there,
the closures that are registered make up no references, and items are older than what holds them.

## Main definitions

* `Session.extent`: the number of objects.
* `Session.Orderly`: an orderly state.

## Main statements

* `Session.Orderly.outside`: what a change of the store and the desk has to keep.
* `Session.Orderly.registered`, `Session.Orderly.unregistered`: changes of the registry.
* `Session.orderly_fresh`: the state that a trial starts in is orderly.
-/

namespace ClosureBridge

variable {n m : Nat}

/-- An interpreter that runs scripts itself. There are objects once there is one. -/
def MachineId.Within (n : Nat) : MachineId → Prop
  | .scripted _ => 0 < n
  | .native .. => False

/-- A context whose interpreter runs scripts itself and whose namespace is there. -/
def Context.Within (n : Nat) (c : Context) : Prop :=
  c.globals < n ∧ c.machine.Within n

theorem MachineId.Within.mono (h : n ≤ m) {k : MachineId} (hk : k.Within n) : k.Within m := by
  cases k with
  | scripted i => exact Nat.lt_of_lt_of_le hk h
  | native i textConstructor => exact hk

theorem MachineId.Within.pos {k : MachineId} (hk : k.Within n) : 0 < n := by
  cases k with
  | scripted i => exact hk
  | native i textConstructor => exact hk.elim

theorem Context.Within.mono (h : n ≤ m) {c : Context} (hc : c.Within n) : c.Within m :=
  ⟨Nat.lt_of_lt_of_le hc.1 h, hc.2.mono h⟩

/-- What is kept under names is there. -/
structure Desk.Within (n : Nat) (d : Desk) : Prop where
  machines : d.machines.All (MachineId.Within n)
  contexts : d.contexts.All (Context.Within n)
  saved : d.saved.All (RefWithin n)

theorem Desk.Within.mono (h : n ≤ m) {d : Desk} (hd : d.Within n) : d.Within m where
  machines := hd.machines.imp fun _ hk => hk.mono h
  contexts := hd.contexts.imp fun _ hc => hc.mono h
  saved := hd.saved.imp fun _ hr => hr.mono h

namespace Session

/-- The number of objects. -/
def extent (w : Session) : Nat :=
  w.outside.store.extent

/-- Whatever the library keeps refers to what is there, and items are older than what holds them. -/
structure Orderly (w : Session) : Prop where
  store : w.outside.store.Orderly
  desk : w.outside.rest.desk.Within (extent w)
  bound : ∀ m, w.bound = some m → m.Within (extent w)
  lambdas : ∀ (i : Nat) (l : Lambda), w.lambdas[i]? = some l →
    l.callable < extent w ∧ l.machine.Within (extent w)
  coherent : w.registry.Coherent
  closures : ∀ id shape call, w.registry.get? id = some (shape, call) → call.Within (extent w)

variable {w : Session}

/-- The state that a trial starts in is orderly. -/
theorem orderly_fresh : Orderly Trial.fresh where
  store := Script.Store.orderly_empty
  desk := ⟨Bindings.all_empty, Bindings.all_empty, Bindings.all_empty⟩
  bound := nofun
  lambdas := nofun
  coherent := Registry.coherent_empty
  closures _ _ _ hget := by cases hget

namespace Orderly

/-- A change that neither the store nor the registry, the binding or the lambdas have a part in. -/
theorem of_eq {w' : Session} (h : Orderly w) (houtside : w'.outside = w.outside)
    (hbound : w'.bound = w.bound) (hlambdas : w'.lambdas = w.lambdas)
    (hregistry : w'.registry = w.registry) : Orderly w' := by
  have hextent : extent w' = extent w := congrArg (fun o => o.store.extent) houtside
  constructor
  · exact houtside ▸ h.store
  · exact hextent ▸ houtside ▸ h.desk
  · exact hextent ▸ hbound ▸ h.bound
  · exact hextent ▸ hlambdas ▸ h.lambdas
  · exact hregistry ▸ h.coherent
  · exact hextent ▸ hregistry ▸ h.closures

/-- The store and the desk, changed. -/
theorem outside (h : Orderly w) {o : Bench.Outside} (hstore : o.store.Orderly)
    (hgrows : extent w ≤ o.store.extent) (hdesk : o.rest.desk.Within o.store.extent) :
    Orderly { w with outside := o } where
  store := hstore
  desk := hdesk
  bound m hm := (h.bound m hm).mono hgrows
  lambdas i l hl :=
    ⟨Nat.lt_of_lt_of_le (h.lambdas i l hl).1 hgrows, (h.lambdas i l hl).2.mono hgrows⟩
  coherent := h.coherent
  closures id shape call hget := (h.closures id shape call hget).mono hgrows

/-- An interpreter is bound. -/
theorem binding (h : Orderly w) {m : MachineId} (hm : m.Within (extent w)) :
    Orderly { w with bound := some m } where
  store := h.store
  desk := h.desk
  bound _ hm' := Option.some.inj hm' ▸ hm
  lambdas := h.lambdas
  coherent := h.coherent
  closures := h.closures

/-- A closure is registered. -/
theorem registered (h : Orderly w) {id : Ident} {shape : Shape} {call : Closure}
    {registry : Registry Closure} (hcall : call.Within (extent w))
    (hr : w.registry.insert id shape call = .ok registry) : Orderly { w with registry } where
  store := h.store
  desk := h.desk
  bound := h.bound
  lambdas := h.lambdas
  coherent := (h.coherent.of_insert hr).2.1
  closures other shape' call' hget := by
    have hget : registry.get? other = some (shape', call') := hget
    rw [h.coherent.get?_insert hr] at hget
    split at hget
    · cases hget
      exact hcall
    · exact h.closures other shape' call' hget

/-- A closure is taken out of the registry. -/
theorem unregistered (h : Orderly w) (id : Ident) :
    Orderly { w with registry := (w.registry.remove id).2 } where
  store := h.store
  desk := h.desk
  bound := h.bound
  lambdas := h.lambdas
  coherent := (h.coherent.remove id).2.1
  closures other shape call hget :=
    h.closures other shape call (get?_of_get?_remove h.coherent hget).2

/-- A lambda is exposed. -/
theorem exposed (h : Orderly w) {l : Lambda} (hcallable : l.callable < extent w)
    (hmachine : l.machine.Within (extent w)) :
    Orderly { w with lambdas := w.lambdas.push l } where
  store := h.store
  desk := h.desk
  bound := h.bound
  lambdas i l' hl' := by
    have hl' : (w.lambdas.push l)[i]? = some l' := hl'
    rw [Array.getElem?_push] at hl'
    split at hl'
    · cases hl'
      exact ⟨hcallable, hmachine⟩
    · exact h.lambdas i l' hl'
  coherent := h.coherent
  closures := h.closures

/-- A lambda loses its descriptor. -/
theorem released (h : Orderly w) {i : Nat} {l : Lambda} (hl : w.lambdas[i]? = some l)
    (descriptor : Option Nat) :
    Orderly { w with lambdas := w.lambdas.setIfInBounds i { l with descriptor } } where
  store := h.store
  desk := h.desk
  bound := h.bound
  lambdas i' l' hl' := by
    have hl' : (w.lambdas.setIfInBounds i { l with descriptor })[i']? = some l' := hl'
    rw [Array.getElem?_setIfInBounds] at hl'
    split at hl'
    · split at hl'
      · cases hl'
        exact h.lambdas i l hl
      · cases hl'
    · exact h.lambdas i' l' hl'
  coherent := h.coherent
  closures := h.closures

/-- The callable of a lambda that has not been released is there. -/
theorem callable? (h : Orderly w) (i : Nat) : RefWithin (extent w) (w.callable? i) := by
  intro r hr
  obtain ⟨l, hl, hr⟩ := Option.bind_eq_some_iff.mp hr
  obtain ⟨_, -, rfl⟩ := Option.map_eq_some_iff.mp hr
  exact (h.lambdas i l hl).1

end Orderly

end Session

end ClosureBridge
