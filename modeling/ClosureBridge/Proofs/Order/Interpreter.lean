import ClosureBridge.Proofs.Order.Script

/-!
# Interpreters hand out what is there

The operations of a scripted interpreter make objects from objects that are there and give objects
that are there. A namespace that is asked for is one of the interpreter's own, a new one, or what
was bound in another.

## Main definitions

* `Interpreter.Gives`: an interpreter whose operations do.

## Main statements

* `Script.gives_interface`: a scripted interpreter is one, where calls of objects are.
-/

namespace ClosureBridge

open Script

variable {n : Nat}

/-- The operations of an interpreter leave an orderly state, and what they give is there. -/
structure Interpreter.Gives (I : Interpreter Bench.Outside) : Prop where
  parseTuple : ∀ {n : Nat} args format,
    Quiet.Gives n (fun k r => ∀ u ∈ r, Unpacked.Within k u) (I.parseTuple args format)
  buildValue : ∀ {n : Nat} {v : Built}, v.Within n → Quiet.Gives n RefWithin (I.buildValue v)
  newText : ∀ {n : Nat} text, Quiet.Gives n (OfOk RefWithin) (I.newText text)
  newCallable : ∀ {n : Nat} {self : Ref} d, self < n →
    Quiet.Gives n RefWithin (I.newCallable d self)
  textOf : ∀ {n : Nat} r, Quiet.Gives n Untold (I.textOf r)
  strOf : ∀ {n : Nat} r, Quiet.Gives n Untold (I.strOf r)
  reprOf : ∀ {n : Nat} r, Quiet.Gives n Untold (I.reprOf r)
  incref : ∀ {n : Nat} r, Quiet.Gives n Untold (I.incref r)
  decref : ∀ {n : Nat} r, Quiet.Gives n Untold (I.decref r)
  mainDict : ∀ {n : Nat}, 0 < n → Quiet.Gives n RefWithin I.mainDict
  newDict : ∀ {n : Nat}, Quiet.Gives n RefWithin I.newDict
  builtins : ∀ {n : Nat}, 0 < n → Quiet.Gives n RefWithin I.builtins
  dictGet : ∀ {n : Nat} scope name, Quiet.Gives n RefWithin (I.dictGet scope name)
  dictSet : ∀ {n : Nat} {value : Option Ref} scope name, RefWithin n value →
    Quiet.Gives n Untold (I.dictSet scope name value)
  getAttr : ∀ {n : Nat} target name, Quiet.Gives n RefWithin (I.getAttr target name)
  setAttr : ∀ {n : Nat} {value : Option Ref} target name, RefWithin n value →
    Quiet.Gives n Untold (I.setAttr target name value)
  compile : ∀ {n : Nat} text name mode, Quiet.Gives n RefWithin (I.compile text name mode)
  errorOccurred : ∀ {n : Nat}, Quiet.Gives n Untold I.errorOccurred
  printError : ∀ {n : Nat}, Quiet.Gives n Untold I.printError
  clearError : ∀ {n : Nat}, Quiet.Gives n Untold I.clearError
  raiseRuntimeError : ∀ {n : Nat} text, Quiet.Gives n Untold (I.raiseRuntimeError text)
  ensureStarted : ∀ {n : Nat}, Quiet.Gives n Untold I.ensureStarted
  runString : ∀ {n : Nat} source mode scope, Exec.Gives n RefWithin (I.runString source mode scope)
  runSimple : ∀ {n : Nat} source, Exec.Gives n Untold (I.runSimple source)

/-! ### The operations of a scripted interpreter -/

namespace Script

theorem Unpack.within_items {format : TupleFormat} {first : Object} {rs : List (Option Ref)}
    {u : Unpacked} (hrs : RefsWithin n rs) (h : Unpack.items format first rs = .ok u) :
    u.Within n := by
  have hobjects : (Unpacked.objects (rs.filterMap id)).Within n := by
    intro r hr
    obtain ⟨r', hr', rfl⟩ := List.mem_filterMap.mp hr
    exact hrs _ hr' r rfl
  unfold Unpack.items at h
  split at h <;> cases h <;> first | exact hobjects | trivial

/-- What a tuple is unpacked into is what it holds. -/
theorem Unpack.within_tuple {h : Heap} (hh : h.Closed) {args : Option Ref} {format : TupleFormat}
    {u : Unpacked} (hu : Unpack.tuple h args format = .ok u) : u.Within h.objects.size := by
  unfold Unpack.tuple at hu
  split at hu
  · next given hgiven =>
    have hrs : (Object.tuple given).Within h.objects.size := hgiven ▸ hh.get args
    split at hu
    · exact Unpack.within_items hrs hu
    · cases hu
  · cases hu

end Script

namespace Quiet.Gives

theorem build {v : Built} (h : v.Within n) :
    Gives n RefWithin (Script.build v : Quiet Bench.Outside (Option Ref)) := by
  cases v with
  | object r => exact pure fun k hk => refWithin_some.mpr (Nat.lt_of_lt_of_le h hk)
  | _ => exact alloc trivial

theorem unpack (i : Nat) (args : Option Ref) (format : TupleFormat) :
    Gives n (fun k r => ∀ u ∈ r, Unpacked.Within k u)
      (Script.unpack i args format : Quiet Bench.Outside (Option Unpacked)) := by
  unfold Script.unpack
  refine read_bind fun d o ho hn => ?_
  split
  · next u hu =>
    have hwithin := Unpack.within_tuple ho.closed hu
    exact ⟨ho, Nat.le_refl _, rfl, fun u' hu' => Option.some.inj hu' ▸ hwithin⟩
  · next e _ =>
    have hnone {k : Nat} (u : Unpacked) (hu : u ∈ none) : u.Within k :=
      absurd hu (Option.not_mem_none u)
    exact bind (raise i e) (fun _ _ _ _ => pure fun _ _ => hnone) d o ho hn

theorem textOf (r : Option Ref) :
    Gives n Untold (Script.textOf r : Quiet Bench.Outside (Option String)) := by
  unfold Script.textOf
  refine bind (object r) fun _ _ _ _ => ?_
  split <;> exact pure fun _ _ => trivial

theorem ofPresent {f : Option Ref → Quiet Bench.Outside String} (hf : ∀ r, Gives n Untold (f r))
    (r : Option Ref) : Gives n Untold (Script.ofPresent f r) := by
  unfold Script.ofPresent
  split
  · exact bind (hf r) fun _ _ _ _ => pure fun _ _ => trivial
  · exact pure fun _ _ => trivial

theorem getAttr (i : Nat) (target : Option Ref) (name : String) :
    Gives n RefWithin (Script.getAttr i target name : Quiet Bench.Outside (Option Ref)) := by
  unfold Script.getAttr
  refine bind (object target) fun k _ o ho => ?_
  split
  · next r hr =>
    obtain ⟨names, hnames, hget⟩ := Option.bind_eq_some_iff.mp hr
    cases o with
    | record names' =>
      cases hnames
      exact pure fun k' hk' => RefWithin.mono hk' (ho name r hget)
    | _ => cases hnames
  · exact bind (raise i _) fun _ _ _ _ => pure fun _ _ => refWithin_none

theorem setAttr (i : Nat) (target : Option Ref) (name : String) {value : Option Ref}
    (h : RefWithin n value) :
    Gives n Untold (Script.setAttr i target name value : Quiet Bench.Outside Bool) := by
  unfold Script.setAttr
  refine bind (object target) fun k hk o ho => ?_
  split
  · next r names =>
    have hnames : (Object.record (names.insert name value)).Within k :=
      Bindings.All.insert ho name (h.mono hk)
    exact bind (set hnames rfl r) fun _ _ _ _ => pure fun _ _ => trivial
  · exact bind (raise i _) fun _ _ _ _ => pure fun _ _ => trivial

theorem dictSet (i : Nat) (scope : Option Ref) (name : String) {value : Option Ref}
    (h : RefWithin n value) :
    Gives n Untold (Script.dictSet i scope name value : Quiet Bench.Outside Bool) := by
  unfold Script.dictSet
  refine bind (dictionary scope name h) fun _ _ _ _ => ?_
  split
  · exact pure fun _ _ => trivial
  · exact bind (raise i _) fun _ _ _ _ => pure fun _ _ => trivial

theorem compile (i : Nat) (text : String) (mode : Mode) :
    Gives n RefWithin (Script.compile i text mode : Quiet Bench.Outside (Option Ref)) := by
  unfold Script.compile
  split
  · exact alloc trivial
  · exact bind (raise i _) fun _ _ _ _ => pure fun _ _ => refWithin_none

theorem printFault (i : Nat) :
    Gives n Untold (Script.printFault i : Quiet Bench.Outside Unit) := by
  unfold Script.printFault
  refine bind (takeFault i) fun _ _ _ _ => ?_
  split
  · exact write i _
  · exact pure fun _ _ => trivial

/-- The buffer that output goes to is bound in a namespace once it is there. -/
theorem installOutput (i : Nat) (globals : Option Ref) :
    Gives n RefWithin (Script.installOutput i globals : Quiet Bench.Outside (Option Ref)) :=
  bind (alloc (o := .output {}) trivial) fun _ _ _ hout => bind (dictionary _ _ hout) fun _ _ _ _ =>
    bind (modifyMachine i fun _ => ⟨rfl, rfl⟩) fun _ _ _ _ => alloc trivial

end Quiet.Gives

/-! ### Running source -/

namespace Exec.Gives

variable {call : Caller Bench} (hc : call.Gives)
include hc

theorem callObject (i : Nat) (callable : Option Ref) {args : List (Option Ref)}
    (hargs : RefsWithin n args) :
    Gives n RefWithin (Script.callObject call i callable args) := by
  refine bind (hc i callable args hargs) fun k _ r hr => ?_
  cases r with
  | ok r => exact pure fun _ hk' => (hr r rfl).mono hk'
  | error e => exact bind (quiet (.raise i e)) fun _ _ _ _ => pure fun _ _ => refWithin_none

theorem runString (i : Nat) (source : String) (mode : Mode) (globals : Option Ref) :
    Gives n RefWithin (Script.runString call i source mode globals) := by
  unfold Script.runString
  refine bind (quiet (.modifyMachine i fun _ => ⟨rfl, rfl⟩)) fun _ _ _ _ => ?_
  split
  · exact quiet (.installOutput i globals)
  · refine bind (Eval.Gives.runText hc i globals mode source) fun k _ r hr => ?_
    cases r with
    | ok r => exact pure fun _ hk' => (hr r rfl).mono hk'
    | error e => exact bind (quiet (.raise i e)) fun _ _ _ _ => pure fun _ _ => refWithin_none

theorem runSimple (i : Nat) (source : String) :
    Gives n Untold (Script.runSimple call i source) := by
  unfold Script.runSimple
  refine bind (quiet (.machine_untold i)) fun _ _ _ _ => ?_
  refine bind (runString hc i source .file _) fun _ _ _ _ => ?_
  split
  · exact pure_untold _
  · exact bind (quiet (.printFault i)) fun _ _ _ _ => pure_untold _

end Exec.Gives

/-- The operations of a scripted interpreter give what is there, where calls of objects do. -/
theorem Script.gives_interface {call : Caller Bench} (hc : call.Gives) (i : Nat) :
    (Script.interface call i).Gives where
  parseTuple := Quiet.Gives.unpack i
  buildValue := Quiet.Gives.build
  newText text := by
    refine Quiet.Gives.bind (.machine_untold i) fun _ _ _ _ => ?_
    split
    · refine Quiet.Gives.bind (.alloc (o := .text text) trivial) fun k _ r hr => ?_
      exact .pure fun k' hk' => ofOk_ok (hr.mono hk')
    · exact .pure fun _ _ => ofOk_error _
  newCallable d hself := .alloc (o := .callable d _) (refWithin_some.mpr hself)
  textOf := Quiet.Gives.textOf
  strOf := Quiet.Gives.ofPresent Quiet.Gives.str
  reprOf := Quiet.Gives.ofPresent Quiet.Gives.shown
  incref _ := .pure fun _ _ => trivial
  decref _ := .pure fun _ _ => trivial
  mainDict hn := .bind (.machine hn i) fun _ _ _ hm => .pure fun _ hk =>
    refWithin_some.mpr (Nat.lt_of_lt_of_le hm.1 hk)
  newDict := .alloc (o := .dict ∅) Bindings.all_empty
  builtins hn := .bind (.machine hn i) fun _ _ _ hm => .pure fun _ hk =>
    refWithin_some.mpr (Nat.lt_of_lt_of_le hm.2 hk)
  dictGet scope name := by
    refine Quiet.Gives.bind (.find scope name) fun k _ r hr => .pure fun k' hk' => ?_
    cases r with
    | none => exact refWithin_none
    | some r => exact (hr r rfl).mono hk'
  dictSet scope name h := .dictSet i scope name h
  getAttr := Quiet.Gives.getAttr i
  setAttr target name h := .setAttr i target name h
  compile text _ mode := Quiet.Gives.compile i text mode
  errorOccurred := .bind (.machine_untold i) fun _ _ _ _ => .pure fun _ _ => trivial
  printError := Quiet.Gives.printFault i
  clearError := .bind (.takeFault i) fun _ _ _ _ => .pure fun _ _ => trivial
  raiseRuntimeError _ := .raise i _
  ensureStarted := .pure fun _ _ => trivial
  runString := Exec.Gives.runString hc i
  runSimple := Exec.Gives.runSimple hc i

/-- An interpreter that is within what there is runs scripts itself. -/
theorem Bench.gives_machine {call : Caller Bench} (hc : call.Gives) {m : MachineId}
    (hm : m.Within n) : (Bench.machine call m).Gives := by
  cases m with
  | scripted i => exact Script.gives_interface hc i
  | native i textConstructor => exact hm.elim

end ClosureBridge
