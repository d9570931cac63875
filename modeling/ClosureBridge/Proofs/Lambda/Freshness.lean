import ClosureBridge.Proofs.Lambda.Registered
import Mathlib.Algebra.Group.Nat.Defs

/-!
# Identifiers drawn and identifiers chosen

The identifiers that a source draws and those that the host chooses name closures in one registry.
A source never draws an identifier a second time before its counter starts again, so a fresh
identifier is refused only where the host has chosen the same text before and its lambda has not
been released.

## Main definitions

* `Lambda.History`: the operations on lambdas that have led to a state.
* `Lambda.drawn`: what a history has drawn.
* `Lambda.Named`: where the identifiers of lambdas come from.

## Main statements

* `Lambda.History.named`: what every history keeps.
* `Lambda.History.withRelease`: a computation with a lambda in scope adds to the history what it
  does itself.
* `Lambda.expose_refused_iff`: when a fresh identifier is refused.
-/

namespace ClosureBridge

namespace IdentSource

/-- The number of an identifier that was drawn can be read off its text. -/
theorem number_injective {stem : String} {i j : Nat}
    (h : stem ++ toString i = stem ++ toString j) : i = j := by
  have hlist : (toString i).toList = (toString j).toList := by
    simpa using congrArg String.toList h
  have hdigits : Nat.toDigits 10 i = Nat.toDigits 10 j := by
    simpa only [Nat.toString_eq_repr, Nat.toList_repr] using hlist
  simpa using congrArg (fun digits => Nat.ofDigitChars 10 digits 0) hdigits

/-- One more identifier is drawn from what the others have left. -/
theorem take_succ (s : IdentSource) (n : Nat) :
    s.take (n + 1) = ((s.take n).1 ++ [(s.take n).2.next.1], (s.take n).2.next.2) := by
  induction n generalizing s with
  | zero => rfl
  | succ n ih =>
    calc s.take (n + 1 + 1)
      _ = (s.next.1 :: (s.next.2.take (n + 1)).1, (s.next.2.take (n + 1)).2) := rfl
      _ = ((s.take (n + 1)).1 ++ [(s.take (n + 1)).2.next.1], (s.take (n + 1)).2.next.2) := by
        rw [ih s.next.2]
        rfl

theorem take_snd (s : IdentSource) (n : Nat) :
    (s.take n).2 = ⟨s.stem, s.issued + UInt64.ofNat n⟩ := by
  induction n with
  | zero => simp [take]
  | succ n ih =>
    simp only [take_succ, ih, next, UInt64.ofNat_add, ← UInt64.add_assoc]
    rfl

/-- An identifier that is drawn after others differs from them, unless the counter has started
again. -/
theorem next_take_notMem (s : IdentSource) {i n : Nat} (hn : n < 2 ^ 64) (hi : i ≤ n) :
    (s.take n).2.next.1 ∉ (s.take i).1 := by
  induction i with
  | zero => exact List.not_mem_nil
  | succ i ih =>
    rw [take_succ, List.mem_append, List.mem_singleton, not_or]
    refine ⟨ih (by omega), fun heq => ?_⟩
    rw [take_snd, take_snd] at heq
    have hissued : (s.issued + UInt64.ofNat n).toNat = (s.issued + UInt64.ofNat i).toNat :=
      number_injective (congrArg Ident.text heq)
    simp only [UInt64.toNat_add, UInt64.toNat_ofNat'] at hissued
    have := s.issued.toNat_lt
    omega

end IdentSource

namespace Lambda

open Exec (run_bind run_bind_of_ok)

variable {ι : Type} {machine : MachineId → Interpreter ι} {m : MachineId} {id : Ident}
  {shape : Shape} {call : Closure} {w : World ι}

/-- An identifier that is registered is refused, unless no text object is built for it. -/
theorem run_create_of_contains {self : Ref}
    (hself : (ReaderT.run ((machine m).newText id.crossing) w.descriptors w.outside).1 =
      .ok (some self))
    (hid : w.registry.contains id = true) :
    ((create machine m id shape call).run w).1 = .ok (.error (.duplicateIdentifier id)) := by
  rw [create_eq, run_bind_of_ok (Quiet.run_run _ _), hself]
  dsimp only
  rw [run_bind, World.run_register, Registry.insert_of_contains hid]
  rfl

/-! ### Histories -/

/-- The operations on lambdas that have led to a state from one before the first lambda, with the
number of identifiers they have drawn and the texts that the host has chosen. -/
inductive History (machine : MachineId → Interpreter ι) : Nat → List String → World ι → Prop where
  | start {w : World ι} (hr : w.registry = {}) (hl : w.lambdas = #[])
    (hi : w.lambdaIds = ⟨Ident.lambdaStem, 0⟩) : History machine 0 [] w
  /-- Something else happens: a handle is dropped, a call arrives, an interpreter runs. -/
  | aside {n : Nat} {chosen : List String} {w v : World ι} (h : History machine n chosen w)
    (hr : v.registry = w.registry) (hl : v.lambdas = w.lambdas) (hi : v.lambdaIds = w.lambdaIds) :
    History machine n chosen v
  /-- A closure is exposed under a fresh identifier, which is drawn when an interpreter is bound. -/
  | expose {n : Nat} {chosen : List String} {w : World ι} (shape : Shape) (call : Closure)
    (h : History machine n chosen w) :
    History machine (if w.bound.isSome then n + 1 else n) chosen
      ((Lambda.expose machine shape call).run w).2
  /-- A closure is exposed under an identifier chosen by the host. -/
  | exposeAs {n : Nat} {chosen : List String} {w : World ι} (text : String) (shape : Shape)
    (call : Closure) (h : History machine n chosen w) :
    History machine n (text :: chosen) ((Lambda.exposeAs machine text shape call).run w).2
  /-- A closure is exposed that tells its shape only at run time. -/
  | exposeUntyped {n : Nat} {chosen : List String} {w : World ι} (shape : Shape) (call : Closure)
    (h : History machine n chosen w) :
    History machine (if shape.isSupported ∧ w.bound.isSome then n + 1 else n) chosen
      ((Lambda.exposeUntyped machine shape call).run w).2
  /-- A lambda is released, perhaps again. -/
  | release {n : Nat} {chosen : List String} {w : World ι} (k : Nat)
    (h : History machine n chosen w) :
    History machine n chosen ((Lambda.release machine k).run w).2

/-- What is drawn from the source of a history, and what is left of the source. -/
def drawn (n : Nat) : List Ident × IdentSource :=
  IdentSource.take ⟨Ident.lambdaStem, 0⟩ n

/-- The registry is the map of the unreleased lambdas, and the identifier of a lambda was drawn
from the source or chosen by the host. -/
structure Named (n : Nat) (chosen : List String) (w : World ι) : Prop where
  coherent : w.registry.Coherent
  maps : w.registry.Maps w.lambdas
  source : (drawn n).2 = w.lambdaIds
  named : ∀ l ∈ w.lambdas, l.id.text ∈ chosen ∨ l.id ∈ (drawn n).1

namespace Named

variable {n : Nat} {chosen : List String}

theorem of_eq (h : Named n chosen w) {v : World ι} (hr : v.registry = w.registry)
    (hl : v.lambdas = w.lambdas) (hi : v.lambdaIds = w.lambdaIds) : Named n chosen v where
  coherent := hr ▸ h.coherent
  maps := by rw [hr, hl]; exact h.maps
  source := h.source.trans hi.symm
  named := hl ▸ h.named

/-- The host chooses one more text. -/
theorem choose (h : Named n chosen w) (text : String) : Named n (text :: chosen) w where
  coherent := h.coherent
  maps := h.maps
  source := h.source
  named l hl := (h.named l hl).imp_left (List.mem_cons_of_mem text)

theorem drawn_succ (h : Named n chosen w) :
    drawn (n + 1) = ((drawn n).1 ++ [w.lambdaIds.next.1], w.lambdaIds.next.2) := by
  rw [← h.source]
  exact IdentSource.take_succ _ n

/-- One more identifier is drawn. -/
theorem draw (h : Named n chosen w) :
    Named (n + 1) chosen { w with lambdaIds := w.lambdaIds.next.2 } where
  coherent := h.coherent
  maps := h.maps
  source := congrArg Prod.snd h.drawn_succ
  named l hl := by
    rw [h.drawn_succ]
    exact (h.named l hl).imp_right (List.mem_append_left _)

/-- A closure is exposed, however far it gets, under an identifier that was drawn or chosen. -/
theorem created (h : Named n chosen w) {r : Except LambdaError Nat} {v : World ι}
    (hv : Created m id shape call w r v)
    (hid : id.text ∈ chosen ∨ id ∈ (drawn n).1) :
    Named n chosen v := by
  cases hv with
  | unnamed | refused => exact h.of_eq rfl rfl rfl
  | abandoned o hr =>
    have hc := (h.coherent.of_insert hr).2.1
    refine ⟨(hc.remove id).2.1, ?_, h.source, h.named⟩
    exact h.maps.of_get? (Session.get?_remove_insert h.coherent hr)
  | exposed callable o hr =>
    refine ⟨(h.coherent.of_insert hr).2.1, h.maps.push h.coherent hr rfl, h.source, ?_⟩
    intro l hl
    rcases Array.mem_push.mp hl with hl | rfl
    · exact h.named l hl
    · exact hid

theorem create (h : Named n chosen w) (machine : MachineId → Interpreter ι) (m : MachineId)
    (shape : Shape) (call : Closure)
    (hid : id.text ∈ chosen ∨ id ∈ (drawn n).1) :
    Named n chosen ((Lambda.create machine m id shape call).run w).2 := by
  obtain ⟨r, v, hrun, hv⟩ := created_create machine m id shape call w
  rw [hrun]
  exact h.created hv hid

theorem expose (h : Named n chosen w) (machine : MachineId → Interpreter ι) (shape : Shape)
    (call : Closure) :
    Named (if w.bound.isSome then n + 1 else n) chosen
      ((Lambda.expose machine shape call).run w).2 := by
  cases hb : w.bound with
  | none =>
    rw [run_expose_of_unbound machine hb]
    exact h
  | some m =>
    rw [run_expose_of_bound machine hb]
    refine h.draw.create machine m shape call (.inr ?_)
    simp [h.drawn_succ]

theorem exposeAs (h : Named n chosen w) (machine : MachineId → Interpreter ι) (text : String)
    (shape : Shape) (call : Closure) :
    Named n (text :: chosen) ((Lambda.exposeAs machine text shape call).run w).2 := by
  rw [Lambda.exposeAs]
  cases hid : Ident.ofText? text with
  | none => exact h.choose text
  | some id =>
    dsimp only
    obtain ⟨ht, -⟩ := Ident.ofText?_eq_some_iff.mp hid
    rw [Dispatch.current, bind_assoc, Exec.run_get_bind]
    cases w.bound with
    | none => exact h.choose text
    | some m =>
      refine (h.choose text).create machine m shape call (.inl ?_)
      simp [ht]

/-- A lambda is released, perhaps again. -/
theorem release (h : Named n chosen w) (machine : MachineId → Interpreter ι) (k : Nat) :
    Named n chosen ((Lambda.release machine k).run w).2 := by
  by_cases hk : ∃ l, Unreleased w.lambdas k l
  · obtain ⟨l, hl, hd⟩ := hk
    obtain ⟨d, hd'⟩ := Option.isSome_iff_exists.mp hd
    rw [run_release machine hl hd']
    refine ⟨(h.coherent.remove l.id).2.1, h.maps.release h.coherent ⟨hl, hd⟩, h.source, ?_⟩
    intro l' hl'
    rcases Array.mem_or_eq_of_mem_setIfInBounds hl' with hl' | rfl
    · exact h.named l' hl'
    · exact h.named l (Array.mem_of_getElem? hl)
  · rw [run_release_of_released machine (not_exists.mp hk)]
    exact h

end Named

namespace History

variable {n : Nat} {chosen : List String}

/-- What every history keeps. -/
theorem named (h : History machine n chosen w) : Named n chosen w := by
  induction h with
  | start hr hl hi =>
    refine ⟨hr ▸ Registry.coherent_empty, ?_, hi.symm, by simp [hl]⟩
    rw [hr, hl]
    exact Registry.Maps.empty
  | aside _ hr hl hi ih => exact ih.of_eq hr hl hi
  | expose shape call _ ih => exact ih.expose machine shape call
  | exposeAs text shape call _ ih => exact ih.exposeAs machine text shape call
  | exposeUntyped shape call _ ih =>
    rw [Lambda.exposeUntyped]
    by_cases hs : shape.isSupported = true
    · simpa only [hs, true_and, if_true] using ih.expose machine shape call
    · rw [if_neg hs, if_neg (fun h => hs h.1)]
      exact ih
  | release k _ ih => exact ih.release machine k

/-- A computation with a lambda in scope adds to the history what it does itself, and the release
that follows it. -/
theorem withRelease {α : Type} {body : Exec (World ι) α} (k : Nat)
    (h : History machine n chosen (body.run w).2) :
    History machine n chosen ((Lambda.withRelease machine k body).run w).2 := by
  by_cases hended : (body.run w).1 = .error .exhausted
  · rw [run_withRelease_of_exhausted machine k hended]
    exact h
  · rw [run_withRelease machine k hended]
    exact h.release k

/-- An identifier is registered exactly when a lambda with it has not been released. -/
theorem contains_iff (h : History machine n chosen w) {id : Ident} :
    w.registry.contains id = true ↔ ∃ k l, Unreleased w.lambdas k l ∧ l.id = id := by
  have hnone : w.registry.get? id = none ↔ w.registry.contains id = false :=
    h.named.coherent.get?_eq_none_iff
  constructor
  · intro hid
    cases hget : w.registry.get? id with
    | none => simp [hnone.mp hget] at hid
    | some e =>
      obtain ⟨k, l, hl, hi, -⟩ := h.named.maps.get?_iff.mp hget
      exact ⟨k, l, hl, hi⟩
  · rintro ⟨k, l, hl, rfl⟩
    by_contra hid
    have hget := h.named.maps.get?_eq hl
    rw [hnone.mpr (by simpa using hid)] at hget
    cases hget

/-- The source does not draw an identifier again before its counter starts again. -/
theorem next_notMem_drawn (h : History machine n chosen w) (hn : n < 2 ^ 64) :
    w.lambdaIds.next.1 ∉ (drawn n).1 := by
  rw [← h.named.source]
  exact IdentSource.next_take_notMem _ hn n.le_refl

/-- An identifier that a lambda has and the source draws next was chosen by the host, unless the
counter has started again. -/
theorem text_mem_chosen (h : History machine n chosen w) (hn : n < 2 ^ 64) {l : Lambda}
    (hl : l ∈ w.lambdas) (hid : l.id = w.lambdaIds.next.1) : l.id.text ∈ chosen := by
  refine (h.named.named l hl).resolve_right fun hdrawn => ?_
  rw [hid] at hdrawn
  exact h.next_notMem_drawn hn hdrawn

end History

/-- **A fresh identifier is refused exactly when an unreleased lambda has it.** Where an interpreter
is bound that builds text objects, exposing a closure, also one that tells its shape only at run
time, fails with a duplicate identifier exactly when the identifier that it draws is that of a
lambda that has not been released. Before the counter of the source starts again that identifier is
none of those that the history has drawn, so the host must have chosen that very text. A computation
with a lambda in scope is one more operation of a history. -/
theorem expose_refused_iff {n : Nat} {chosen : List String} (h : History machine n chosen w)
    (hb : w.bound = some m) {self : Ref}
    (hself : (ReaderT.run ((machine m).newText w.lambdaIds.next.1.crossing)
      w.descriptors w.outside).1 = .ok (some self)) :
    (∀ (shape : Shape) (call : Closure) (fresh : Exec (World ι) (Except LambdaError Nat)),
      fresh = expose machine shape call ∨
        shape.isSupported = true ∧ fresh = exposeUntyped machine shape call →
      ∀ id, ((fresh.run w).1 = .ok (.error (.duplicateIdentifier id)) ↔
          id = w.lambdaIds.next.1 ∧ ∃ k l, Unreleased w.lambdas k l ∧ l.id = id) ∧
        ((fresh.run w).1 = .ok (.error (.duplicateIdentifier id)) → n < 2 ^ 64 →
          id.text ∈ chosen)) ∧
      ((drawn n).2 = w.lambdaIds ∧ (∀ l ∈ w.lambdas, l.id.text ∈ chosen ∨ l.id ∈ (drawn n).1) ∧
        (n < 2 ^ 64 → w.lambdaIds.next.1 ∉ (drawn n).1)) ∧
      ∀ {α : Type} (body : Exec (World ι) α) (k n' : Nat) (chosen' : List String),
        History machine n' chosen' (body.run w).2 →
          History machine n' chosen' ((withRelease machine k body).run w).2 := by
  refine ⟨?_, ⟨h.named.source, h.named.named, h.next_notMem_drawn⟩,
    fun body k n' chosen' hbody => hbody.withRelease k⟩
  intro shape call fresh hfresh id
  have hrun : fresh.run w = (create machine m w.lambdaIds.next.1 shape call).run
      { w with lambdaIds := w.lambdaIds.next.2 } := by
    rcases hfresh with rfl | ⟨hs, rfl⟩
    · exact run_expose_of_bound machine hb shape call
    · rw [exposeUntyped, if_pos hs]
      exact run_expose_of_bound machine hb shape call
  have hiff : (fresh.run w).1 = .ok (.error (.duplicateIdentifier id)) ↔
      id = w.lambdaIds.next.1 ∧ ∃ k l, Unreleased w.lambdas k l ∧ l.id = id := by
    rw [← h.contains_iff, hrun]
    constructor
    · intro hr
      obtain ⟨r, v, hcreate, hv⟩ := created_create machine m w.lambdaIds.next.1 shape call
        { w with lambdaIds := w.lambdaIds.next.2 }
      rw [hcreate, Except.ok.injEq] at hr
      cases hv with
      | unnamed o he =>
        cases hr
        exact absurd rfl (he id)
      | refused o hid =>
        cases hr
        exact ⟨rfl, hid⟩
      | abandoned o _ => cases hr
      | exposed callable o _ => cases hr
    · rintro ⟨rfl, hid⟩
      exact run_create_of_contains hself hid
  refine ⟨hiff, fun hr hn => ?_⟩
  obtain ⟨hid, k, l, hl, rfl⟩ := hiff.mp hr
  exact h.text_mem_chosen hn (Array.mem_of_getElem? hl.1) hid

/-- A scripted interpreter is bound. -/
def installed : Session :=
  Session.taking 0 [.runtime (.make "main" true), .runtime (.install "main")] Trial.fresh

/-- A closure has been exposed under the identifier drawn first, and the host has exposed another
one under the text that the source draws next. -/
def anticipated : Session :=
  let first :=
    ((expose (Recursion.level 0).machine ⟨.object, .object⟩ Closure.echo).run installed).2
  ((exposeAs (Recursion.level 0).machine "lmb1" ⟨.object, .object⟩ Closure.echo).run first).2

theorem history_anticipated : History (Recursion.level 0).machine 1 ["lmb1"] anticipated :=
  ((History.start (w := installed) rfl rfl rfl).expose ⟨.object, .object⟩ Closure.echo).exposeAs
    "lmb1" ⟨.object, .object⟩ Closure.echo

/-- The text that the host has chosen is the one that is refused, and it was not drawn before. -/
theorem expose_refused_anticipated :
    ((expose (Recursion.level 0).machine ⟨.object, .text⟩ Closure.kindName).run anticipated).1 =
      .ok (.error (.duplicateIdentifier ⟨"lmb1"⟩)) ∧
    (drawn 1).1 = [⟨"lmb0"⟩] ∧ anticipated.lambdaIds.next.1 ∉ (drawn 1).1 := by
  obtain ⟨hrefused, ⟨-, -, hnew⟩, -⟩ :=
    expose_refused_iff history_anticipated (m := .scripted 0) rfl rfl
  have hiff := (hrefused ⟨.object, .text⟩ Closure.kindName _ (.inl rfl) ⟨"lmb1"⟩).1
  exact ⟨hiff.mpr ⟨rfl, 1, _, ⟨rfl, rfl⟩, rfl⟩, rfl, hnew (by decide)⟩

/-- Fresh identifiers are not out of reach of the host's own choice. -/
theorem not_expose_never_refused :
    ¬∀ (n : Nat) (chosen : List String) (w : Session) (shape : Shape) (call : Closure) (self : Ref)
      (id : Ident), History (Recursion.level 0).machine n chosen w → w.bound = some (.scripted 0) →
      (ReaderT.run (((Recursion.level 0).machine (.scripted 0)).newText
        w.lambdaIds.next.1.crossing) w.descriptors w.outside).1 = .ok (some self) →
      ((expose (Recursion.level 0).machine shape call).run w).1 ≠
        .ok (.error (.duplicateIdentifier id)) := by
  intro h
  refine h 1 ["lmb1"] anticipated ⟨.object, .text⟩ Closure.kindName _ ⟨"lmb1"⟩ history_anticipated
    rfl rfl ?_
  rfl

end Lambda

end ClosureBridge
