import ClosureBridge.Proofs.Dispatch.Function

/-!
# Values there and back

What is built from a value in the slot of its own kind is unpacked as that value by the input kind
of the same name. The two directions have tables of their own: a truth value is built as such and
unpacked through the code of integers, and an object goes by its reference.

## Main definitions

* `OutputKind.input`: the input kind with the name of an output kind.
* `OutputKind.received`: a result of a typed closure as what another one receives.
* `HostValue.arguments`: a value as the arguments of a closure that receives one of its kind.

## Main statements

* `Dispatch.unpacked_of_isBuilt`: what is built from a value is unpacked as the value.
* `Dispatch.buildOut_parseIn`: the same for the operations of a scripted interpreter.
-/

namespace ClosureBridge

open Script (Heap Object)

namespace OutputKind

/-- The input kind with the name of an output kind. -/
def input : OutputKind → InputKind
  | integer => .integer
  | float => .float
  | text => .text
  | boolean => .boolean
  | object => .object

theorem eq_input_iff {kind : InputKind} {k : OutputKind} :
    kind = k.input ↔ kind.typeName = k.typeName := by
  cases kind <;> cases k <;> decide

/-- A result of a typed closure as what another one receives. -/
def received : (k : OutputKind) → k.Carrier → k.input.Carrier
  | integer, n => n
  | float, v => v
  | text, s => s
  | boolean, b => b
  | object, r => r

end OutputKind

namespace HostValue

/-- A value as the arguments of a closure that receives one of its kind. -/
def arguments : HostValue → Arguments
  | integer n => .integer n
  | float v => .float v
  | text s => .text s
  | boolean b => .boolean b
  | object r => .object r

/-- The payload of a result is what a typed closure receives. -/
theorem extract?_arguments (k : OutputKind) (r : k.Carrier) :
    (ofCarrier k r).arguments.extract? k.input = some (k.received r) := by
  cases k <;> rfl

/-- A value that crosses is built into an object in the slot of its own kind. -/
theorem prepare_kind {v : HostValue} (h : v.crosses = true) :
    Marshal.prepare v v.kind = .ok v.built :=
  Marshal.prepare_eq_ok_iff.mpr ⟨v, v.coerce_kind, h, rfl⟩

/-- An object that is built from a value is unpacked as the value. -/
theorem arranged_of_ofBuilt? {v : HostValue} {o : Object} (h : Object.ofBuilt? v.built = some o)
    (given : List (Option Ref)) :
    Dispatch.arranged v.kind.input (Script.Unpack.items v.kind.input.format o given) =
      .ok v.arguments := by
  cases v with
  | object r => cases h
  | boolean b => cases h; cases b <;> rfl
  | _ => cases h; rfl

end HostValue

namespace Dispatch

open Script (interface)

variable {w : Session} {v : HostValue} {o t : Ref}

/-- What is built from a value is unpacked as the value. -/
theorem unpacked_of_isBuilt (ho : w.outside.store.heap.IsBuilt v.built (some o))
    (ht : w.outside.store.heap.objects[t]? = some (.tuple [some o])) :
    unpacked w (some t) v.kind.input = .ok v.arguments := by
  have htuple : Script.Unpack.tuple w.outside.store.heap (some t) v.kind.input.format =
      Script.Unpack.items v.kind.input.format (w.outside.store.heap.get (some o)) [some o] := by
    rw [Script.Unpack.tuple, Heap.get_of_getElem? ht]
    cases v <;> rfl
  rw [unpacked_eq, htuple]
  generalize hb : v.built = b at ho
  cases ho with
  | object r =>
    cases v with
    | object r' => cases hb; rfl
    | _ => cases hb
  | @made _ object _ hv hr =>
    subst hb
    rw [Heap.get_of_getElem? hr]
    exact v.arranged_of_ofBuilt? hv [some o]

/-- What is built from a value, however much later it is unpacked, gives the value back and leaves
the state alone. -/
theorem buildOut_parseIn {rc : Script.Caller Bench} {k : Nat} (hv : v.crosses = true)
    (hlive : ∀ r, v = .object r → r < w.outside.store.heap.objects.size) :
    ∃ (o : Ref) (w' : Session),
      (Marshal.buildOut (interface rc k) v v.kind).run.run w = (.ok (some o), w') ∧
      o < w'.outside.store.heap.objects.size ∧ w'.pending k = w.pending k ∧
      ∀ (u : Session) (t : Ref) (kind : InputKind),
        w'.outside.store.Grows u.outside.store →
        u.outside.store.heap.objects[t]? = some (.tuple [some o]) →
        kind.typeName = v.kind.typeName →
        (Marshal.parseIn (interface rc k) (some t) kind).run.run u =
          (.ok (.ok v.arguments), u) := by
  have hbuild : (Marshal.buildOut (interface rc k) v v.kind).run.run w = _ :=
    run_buildOut v v.kind
  rw [HostValue.prepare_kind hv] at hbuild
  refine ⟨_, _, hbuild, ?_, pending_placed w v.built, fun u t kind hu ht hkind => ?_⟩
  · cases v with
    | object r => exact hlive r rfl
    | _ => exact (Array.size_push _).symm ▸ Nat.lt_succ_self _
  · have hparse : (Marshal.parseIn (interface rc k) (some t) kind).run.run u = _ :=
      run_parseIn (some t) kind
    rw [OutputKind.eq_input_iff.mpr hkind] at hparse ⊢
    rw [unpacked_of_isBuilt ((isBuilt_placed w v.built).grows hu) ht] at hparse
    exact hparse

end Dispatch

end ClosureBridge
