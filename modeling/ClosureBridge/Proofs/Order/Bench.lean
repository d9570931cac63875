import ClosureBridge.Proofs.Order.Lambda

/-!
# The bench hands out what is there

What is kept on the desk is there, and the objects that terms stand for are made from objects that
are there, items before what holds them.

## Main definitions

* `Answer.Within`: an answer whose object, if it has one, is there.

## Main statements

* `Exec.Gives.object`, `Exec.Gives.objects`: the objects that terms stand for.
* `Exec.Gives.ofExcept`: an answer to what may have failed.
-/

namespace ClosureBridge

variable {n : Nat} {α : Type}

/-- The object of an answer is there. -/
def Answer.Within (n : Nat) (a : Answer) : Prop :=
  RefWithin n a.object

namespace Exec.Gives

/-! ### The desk -/

/-- What is on the desk is there. -/
theorem getDesk : Gives n Desk.Within Bench.getDesk :=
  fun _ hw _ => ⟨hw, Nat.le_refl _, ofOk_ok hw.desk⟩

theorem modifyDesk {f : Desk → Desk}
    (hf : ∀ k, n ≤ k → ∀ d, Desk.Within k d → Desk.Within k (f d)) :
    Gives n Untold (Bench.modifyDesk f) := by
  intro w hw hn
  exact ⟨hw.outside hw.store (Nat.le_refl _) (hf _ hn _ hw.desk), Nat.le_refl _, fun _ _ => trivial⟩

theorem keepMachine (name : String) {m : MachineId} (hm : m.Within n) :
    Gives n Untold (Bench.keepMachine name m) :=
  modifyDesk fun _ hk _ hd => { hd with machines := hd.machines.insert name (hm.mono hk) }

theorem keepContext (name : String) {c : Context} (hc : c.Within n) :
    Gives n Untold (Bench.keepContext name c) :=
  modifyDesk fun _ hk _ hd => { hd with contexts := hd.contexts.insert name (hc.mono hk) }

theorem keepObject (name : String) {r : Option Ref} (hr : RefWithin n r) :
    Gives n Untold (Bench.keepObject name r) :=
  modifyDesk fun _ hk _ hd => { hd with saved := hd.saved.insert name (hr.mono hk) }

/-- What has no reference in it may be kept and dropped. -/
theorem modifyNames {f : Desk → Desk} (hm : ∀ d, (f d).machines = d.machines)
    (hc : ∀ d, (f d).contexts = d.contexts) (hs : ∀ d, (f d).saved = d.saved) :
    Gives n Untold (Bench.modifyDesk f) :=
  modifyDesk fun _ _ d hd => ⟨hm d ▸ hd.machines, hc d ▸ hd.contexts, hs d ▸ hd.saved⟩

theorem named {Q : Nat → α → Prop} (hQ : ∀ {k k' a}, k ≤ k' → Q k a → Q k' a)
    {things : Bindings α} (h : things.All (Q n)) (name : String) :
    Gives n Q (Bench.named things name) := by
  unfold Bench.named
  split
  · next a ha => exact pure fun _ hk => hQ hk (h name a ha)
  · exact panic _

theorem machineNamed (name : String) : Gives n MachineId.Within (Bench.machineNamed name) :=
  bind getDesk fun _ _ _ hd => named (fun h hm => hm.mono h) hd.machines name

theorem contextNamed (name : String) : Gives n Context.Within (Bench.contextNamed name) :=
  bind getDesk fun _ _ _ hd => named (fun h hc => hc.mono h) hd.contexts name

theorem scriptedNamed (name : String) : Gives n Untold (Bench.scriptedNamed name) := by
  unfold Bench.scriptedNamed
  refine bind (machineNamed name) fun _ _ m _ => ?_
  split
  · exact pure_untold _
  · exact panic _

theorem save (name : String) {r : Option Ref} (hr : RefWithin n r) :
    Gives n Untold (Bench.save name r) := by
  unfold Bench.save
  split
  · exact keepObject name hr
  · exact pure_untold _

/-! ### Objects and values that terms stand for -/

theorem present {r : Option Ref} (hr : RefWithin n r) :
    Gives n (fun k (s : Ref) => s < k) (Bench.present r) := by
  cases r with
  | some r => exact pure fun _ hk => refWithin_some.mp (hr.mono hk)
  | none => exact panic _

theorem callableNamed (name : String) : Gives n RefWithin (Bench.callableNamed name) := by
  refine bind getDesk fun _ _ d _ => bind_get fun w hw _ => ⟨hw, Nat.le_refl _, ofOk_ok ?_⟩
  intro r hr
  obtain ⟨i, -, hr⟩ := Option.bind_eq_some_iff.mp hr
  exact hw.callable? i r hr

theorem make {o : Script.Object} (h : o.Within n) : Gives n RefWithin (Bench.make o) :=
  quiet (.alloc h)

mutual

/-- The object that a term stands for is there. -/
theorem object : ∀ t : Term, t.Within n → Gives n RefWithin (Bench.object t)
  | .null, _ => make trivial
  | .boolean _, _ => make trivial
  | .integer _, _ => make trivial
  | .float _, _ => make trivial
  | .text _, _ => make trivial
  | .list items, h => bind (objects items h) fun _ _ rs hrs => make (o := .list rs) hrs
  | .tuple items, h => bind (objects items h) fun _ _ rs hrs => make (o := .tuple rs) hrs
  | .record, _ => make (o := .record ∅) Bindings.all_empty
  | .dict, _ => make (o := .dict ∅) Bindings.all_empty
  | .saved name, _ => by
    refine bind getDesk fun k _ d hd => pure fun k' hk' => ?_
    cases hr : d.saved.get? name with
    | none => exact refWithin_none
    | some r => exact (hd.saved name r hr).mono hk'
  | .lambda name, _ => callableNamed name
  | .globals name, _ =>
    bind (contextNamed name) fun _ _ _ hc => pure fun _ hk =>
      refWithin_some.mpr (Nat.lt_of_lt_of_le hc.1 hk)
  | .raw _, h => pure fun _ hk => RefWithin.mono hk h

/-- The objects that terms stand for are there, once all of them are. -/
theorem objects : ∀ ts : List Term, Term.AllWithin n ts → Gives n RefsWithin (Bench.objects ts)
  | [], _ => pure fun _ _ => refsWithin_nil
  | t :: rest, h => bind (object t h.1) fun _ hk _ hr =>
      bind_pure ((objects rest h.2).mono hk) fun _ hk' _ hrs => .cons (hr.mono hk') hrs

end

theorem value {t : ValueTerm} (h : t.Within n) : Gives n HostValue.Within (Bench.value t) := by
  cases t with
  | object t =>
    exact bind (object t h) fun _ _ _ hr => bind_pure (present hr) fun _ _ _ hs => hs
  | _ => exact pure fun _ _ => trivial

theorem arguments {t : ArgumentsTerm} (h : t.Within n) :
    Gives n Arguments.Within (Bench.arguments t) := by
  cases t with
  | object a =>
    exact bind (object a h) fun _ _ _ hr => bind_pure (present hr) fun _ _ _ hs => hs
  | pair a b =>
    refine bind (object a h.1) fun k hk _ ha => bind (present ha) fun k₁ hk₁ a' ha' => ?_
    refine bind ((object b h.2).mono (Nat.le_trans hk hk₁)) fun k₂ hk₂ _ hb => ?_
    exact bind_pure (present hb) fun _ hk₃ _ hb' =>
      ⟨Nat.lt_of_lt_of_le ha' (Nat.le_trans hk₂ hk₃), hb'⟩
  | triple a b c =>
    refine bind (object a h.1) fun k hk _ ha => bind (present ha) fun k₁ hk₁ a' ha' => ?_
    have hk₁ := Nat.le_trans hk hk₁
    refine bind ((object b h.2.1).mono hk₁) fun k₂ hk₂ _ hb => ?_
    refine bind (present hb) fun k₃ hk₃ b' hb' => ?_
    have hk₃ := Nat.le_trans hk₂ hk₃
    refine bind ((object c h.2.2).mono (Nat.le_trans hk₁ hk₃)) fun k₄ hk₄ _ hc => ?_
    exact bind_pure (present hc) fun _ hk₅ _ hc' =>
      have hk₅ := Nat.le_trans hk₄ hk₅
      ⟨Nat.lt_of_lt_of_le ha' (Nat.le_trans hk₃ hk₅), Nat.lt_of_lt_of_le hb' hk₅, hc'⟩
  | _ => exact pure fun _ _ => trivial

theorem built {t : BuildTerm} (h : t.Within n) : Gives n Built.Within (Bench.built t) := by
  cases t with
  | object t =>
    exact bind (object t h) fun _ _ _ hr => bind_pure (present hr) fun _ _ _ hs => hs
  | _ => exact pure fun _ _ => trivial

/-! ### Answers -/

theorem objectJson (r : Option Ref) : Gives n Untold (Answer.objectJson r) := by
  unfold Answer.objectJson
  refine bind getDesk fun _ _ d _ => ?_
  split
  · exact pure_untold _
  · exact pure_untold _
  · exact quiet (.bind (.object _) fun _ _ _ _ => .bind (.shown _) fun _ _ _ _ =>
      .pure fun _ _ => trivial)

theorem ofObject {r : Option Ref} (hr : RefWithin n r) :
    Gives n Answer.Within (Answer.ofObject r) :=
  bind_pure (objectJson r) fun _ hk _ _ => hr.mono hk

theorem objectsJson (rs : List (Option Ref)) : Gives n Untold (Answer.objectsJson rs) :=
  bind (mapM_untold objectJson rs) fun _ _ _ _ => pure_untold _

theorem argumentsJson (args : Arguments) : Gives n Untold (Answer.argumentsJson args) := by
  cases args with
  | object a => exact bind (objectJson _) fun _ _ _ _ => pure_untold _
  | pair a b =>
    exact bind (objectJson _) fun _ _ _ _ => bind (objectJson _) fun _ _ _ _ => pure_untold _
  | triple a b c =>
    exact bind (objectJson _) fun _ _ _ _ => bind (objectJson _) fun _ _ _ _ =>
      bind (objectJson _) fun _ _ _ _ => pure_untold _
  | _ => exact pure_untold _

theorem valueJson (v : HostValue) : Gives n Untold (Answer.valueJson v) := by
  cases v with
  | object r => exact bind (objectJson _) fun _ _ _ _ => pure_untold _
  | _ => exact pure_untold _

theorem unpackedJson (parts : Option Unpacked) : Gives n Untold (Answer.unpackedJson parts) := by
  unfold Answer.unpackedJson
  split
  · exact pure_untold _
  · exact pure_untold _
  · exact pure_untold _
  · exact pure_untold _
  · exact bind (objectsJson _) fun _ _ _ _ => pure_untold _

theorem lambdaJson (i : Nat) : Gives n Untold (Answer.lambdaJson i) := by
  unfold Answer.lambdaJson
  refine bind_get fun w hw hn => ?_
  split
  · exact ⟨hw, Nat.le_refl _, fun _ _ => trivial⟩
  · exact bind (objectJson _) (fun _ _ _ _ => pure_untold _) w hw hn

/-- An answer without an object. -/
theorem plain (json : Json) : Gives n Answer.Within (Pure.pure (Answer.plain json)) :=
  pure fun _ _ => refWithin_none

theorem ofExcept {ε : Type} {Q : Nat → α → Prop} {report : ε → Report}
    {f : α → Exec Session Answer} {r : Except ε α} (hr : OfOk Q n r)
    (hf : ∀ a, Q n a → Gives n Answer.Within (f a)) :
    Gives n Answer.Within (Answer.ofExcept report f r) := by
  cases r with
  | ok a => exact hf a (hr a rfl)
  | error e => exact plain _

end Exec.Gives

end ClosureBridge
