import ClosureBridge.Proofs.Order.Interpreter
import ClosureBridge.Proofs.Session.Exposure

/-!
# The library hands out what is there

The library keeps references in contexts, in exposed lambdas and in closures that are registered,
and it carries them between the host and the interpreters. It makes none up.

## Main statements

* `Exec.Gives.dispatch`: a call of the router gives an object that is there, where the closures that
  it may call do.
* `Exec.Gives.create`, `Exec.Gives.release`: exposing a closure and releasing a lambda.
* `Exec.Gives.runCell`, `Exec.Gives.resolve`, `Exec.Gives.begin`: cells, lambdas written as source
  text and the set-up of a session.
-/

namespace ClosureBridge

variable {n : Nat} {α : Type}

/-! ### Across the boundary -/

/-- What a value is converted into is no object. -/
theorem HostValue.within_of_convert {u v : HostValue} {target : OutputKind}
    (h : v.convert target = some u) : u.Within n := by
  cases v <;> cases target <;> simp only [convert, Option.some.injEq, reduceCtorEq,
    Option.map_eq_some_iff] at h <;> first | (subst h; trivial) | (obtain ⟨_, _, rfl⟩ := h; trivial)

namespace Marshal

/-- Arguments that were put together refer to what was unpacked. -/
theorem within_of_arrange {kind : InputKind} {parts : Unpacked} {args : Arguments}
    (hparts : parts.Within n) (h : arrange kind parts = some args) : args.Within n := by
  unfold arrange at h
  split at h <;> cases h <;> first | trivial | skip
  · exact hparts _ (by simp)
  · exact ⟨hparts _ (by simp), hparts _ (by simp)⟩
  · exact ⟨hparts _ (by simp), hparts _ (by simp), hparts _ (by simp)⟩

/-- An object is built from the object that a value is. -/
theorem within_of_prepare {v : HostValue} {target : OutputKind} {built : Built}
    (hv : v.Within n) (h : prepare v target = .ok built) : built.Within n := by
  obtain ⟨u, hu, -, rfl⟩ := prepare_eq_ok_iff.mp h
  have hwithin : u.Within n := by
    unfold HostValue.coerce at hu
    split at hu
    · exact Option.some.inj hu ▸ hv
    · exact HostValue.within_of_convert hu
  cases u with
  | object r => exact hwithin
  | _ => trivial

end Marshal

namespace Quiet.Gives

variable {I : Interpreter Bench.Outside} (hI : I.Gives)
include hI

theorem parseIn (args : Option Ref) (kind : InputKind) :
    Gives n (OfOk Arguments.Within) (Marshal.parseIn I args kind) := by
  unfold Marshal.parseIn
  refine bind (hI.parseTuple args kind.format) fun k _ parts hparts => ?_
  split
  · exact pure fun _ _ => ofOk_error _
  · next u =>
    split
    · next arguments harrange =>
      have hwithin : arguments.Within k := Marshal.within_of_arrange (hparts u rfl) harrange
      exact pure fun _ hk => ofOk_ok (hwithin.mono hk)
    · exact bind (hI.raiseRuntimeError _) fun _ _ _ _ => pure fun _ _ => ofOk_error _

theorem buildOut {v : HostValue} (h : v.Within n) (target : OutputKind) :
    Gives n RefWithin (Marshal.buildOut I v target) := by
  unfold Marshal.buildOut
  split
  · next built hbuilt => exact hI.buildValue (Marshal.within_of_prepare h hbuilt)
  · exact bind (hI.raiseRuntimeError _) fun _ _ _ _ => pure fun _ _ => refWithin_none

end Quiet.Gives

/-! ### Contexts -/

namespace Exec.Gives

section

variable {I : Interpreter Bench.Outside} (hI : I.Gives)
include hI

theorem ensureBuiltins {c : Context} (hc : c.Within n) :
    Gives n Untold (Context.ensureBuiltins I c) := by
  unfold Context.ensureBuiltins
  refine bind (quiet (hI.dictGet _ _)) fun k hk bound _ => ?_
  split
  · have hpos : 0 < k := Nat.lt_of_lt_of_le (Nat.zero_lt_of_lt hc.1) hk
    refine bind (quiet (hI.builtins hpos)) fun k' _ builtins hbuiltins => ?_
    split
    · refine bind (quiet (hI.dictSet _ _ hbuiltins)) fun _ _ stored _ => ?_
      split
      · exact pure_untold _
      · exact quiet hI.clearError
    · exact pure_untold _
  · exact pure_untold _

theorem reportError (showErrors : Bool) : Gives n Untold (Context.reportError I showErrors) := by
  unfold Context.reportError
  refine bind (quiet hI.errorOccurred) fun _ _ pending _ => ?_
  split
  · split
    · exact quiet hI.printError
    · exact quiet hI.clearError
  · exact pure_untold _

theorem execute {c : Context} (hc : c.Within n) (source : String) (mode : Mode)
    (showErrors : Bool) : Gives n RefWithin (Context.execute I c source mode showErrors) := by
  unfold Context.execute
  split
  · refine bind (ensureBuiltins hI hc) fun _ _ _ _ => ?_
    refine bind (hI.runString source mode _) fun _ _ r hr => ?_
    split
    · exact bind (reportError hI showErrors) fun _ hk _ _ => pure fun _ hk' =>
        (hr.mono hk).mono hk'
    · exact pure fun _ hk => hr.mono hk
  · exact pure fun _ _ => refWithin_none

theorem compiles (source : String) (mode : Mode) :
    Gives n Untold (Context.compiles I source mode) := by
  unfold Context.compiles
  split
  · refine bind (quiet (hI.compile _ _ _)) fun _ _ code _ => ?_
    split
    · exact bind (quiet hI.clearError) fun _ _ _ _ => pure_untold _
    · exact bind (quiet (hI.decref _)) fun _ _ _ _ => pure_untold _
  · exact pure_untold _

theorem runSource (source : String) : Gives n Untold (Context.runSimple I source) := by
  unfold Context.runSimple
  split
  · exact hI.runSimple source
  · exact pure_untold _

theorem setGlobal (c : Context) (name : String) {value : Option Ref} (h : RefWithin n value) :
    Gives n Untold (Context.setGlobal I c name value) := by
  unfold Context.setGlobal
  split
  · refine bind (quiet (hI.dictSet _ _ h)) fun _ _ stored _ => ?_
    split
    · exact pure_untold _
    · exact bind (quiet hI.clearError) fun _ _ _ _ => pure_untold _
  · exact pure_untold _

theorem getGlobal (c : Context) (name : String) :
    Gives n RefWithin (Context.getGlobal I c name) := by
  unfold Context.getGlobal
  split
  · exact quiet (hI.dictGet _ _)
  · exact pure fun _ _ => refWithin_none

theorem getAttr (object : Option Ref) (name : String) :
    Gives n RefWithin (Context.getAttr I object name) := by
  unfold Context.getAttr
  split
  · refine bind (quiet (hI.getAttr _ _)) fun _ _ value hvalue => ?_
    split
    · exact bind (quiet hI.clearError) fun _ hk _ _ => pure fun _ hk' =>
        (hvalue.mono hk).mono hk'
    · exact pure fun _ hk => hvalue.mono hk
  · exact pure fun _ _ => refWithin_none

theorem setAttr (object : Option Ref) (name : String) {value : Option Ref}
    (h : RefWithin n value) : Gives n Untold (Context.setAttr I object name value) := by
  unfold Context.setAttr
  split
  · refine bind (quiet (hI.setAttr _ _ h)) fun _ _ stored _ => ?_
    split
    · exact pure_untold _
    · exact bind (quiet hI.clearError) fun _ _ _ _ => pure_untold _
  · exact pure_untold _

theorem strOf (object : Option Ref) : Gives n Untold (Context.strOf I object) := by
  unfold Context.strOf
  refine bind (quiet (hI.strOf _)) fun _ _ text _ => ?_
  split
  · exact bind (quiet hI.clearError) fun _ _ _ _ => pure_untold _
  · exact pure_untold _

theorem reprOf (object : Option Ref) : Gives n Untold (Context.reprOf I object) := by
  unfold Context.reprOf
  refine bind (quiet (hI.reprOf _)) fun _ _ text _ => ?_
  split
  · exact bind (quiet hI.clearError) fun _ _ _ _ => pure_untold _
  · exact pure_untold _

theorem discard (object : Option Ref) : Gives n Untold (Context.discard I object) :=
  quiet (hI.decref _)

end

theorem isCapturing (c : Context) : Gives n Untold (c.isCapturing : Exec Session Bool) :=
  fun _ hw _ => ⟨hw, Nat.le_refl _, fun _ _ => trivial⟩

theorem setCapturing (c : Context) (b : Bool) :
    Gives n Untold (c.setCapturing b : Exec Session Unit) :=
  modify fun _ hw => ⟨hw.of_eq rfl rfl rfl rfl, rfl⟩

/-! ### Captured output and cells -/

section

variable {I : Interpreter Bench.Outside} (hI : I.Gives) {c : Context} (hc : c.Within n)
include hI hc

theorem startCapture : Gives n Untold (Capture.start I c) := by
  unfold Capture.start
  refine bind (isCapturing c) fun k hk capturing _ => ?_
  split
  · exact pure_untold _
  · have hinstall : Gives k Untold (Capture.install I c) := by
      unfold Capture.install
      refine bind (getGlobal hI c _) fun k' hk' bound _ => ?_
      split
      · exact pure_untold _
      · refine bind (execute hI ((hc.mono hk).mono hk') _ _ _) fun _ _ r _ => ?_
        split
        · exact bind (discard hI _) fun _ _ _ _ => pure_untold _
        · exact pure_untold _
    exact bind hinstall fun _ _ _ _ => bind (setCapturing c _) fun _ _ _ _ => pure_untold _

theorem readCapture (method : String) : Gives n Untold (Capture.read I c method) := by
  unfold Capture.read
  refine bind (execute hI hc _ _ _) fun _ _ r _ => ?_
  split
  · exact pure_untold _
  · exact bind (strOf hI _) fun _ _ _ _ => bind (discard hI _) fun _ _ _ _ => pure_untold _

theorem drain : Gives n Untold (Capture.drain I c) := by
  unfold Capture.drain
  refine bind (isCapturing c) fun k hk capturing _ => ?_
  split
  · refine bind (readCapture hI (hc.mono hk) _) fun k' hk' text _ => ?_
    refine bind (execute hI ((hc.mono hk).mono hk') _ _ _) fun _ _ r _ => ?_
    split
    · exact bind (discard hI _) fun _ _ _ _ => pure_untold _
    · exact pure_untold _
  · exact pure_untold _

theorem allOutput : Gives n Untold (Capture.all I c) := by
  unfold Capture.all
  refine bind (isCapturing c) fun k hk capturing _ => ?_
  split
  · exact readCapture hI (hc.mono hk) _
  · exact pure_untold _

theorem runBody (lines : List (List Char)) : Gives n Untold (Cell.runBody I c lines) := by
  unfold Cell.runBody
  dsimp only
  split
  · exact pure_untold _
  · refine bind (execute hI hc _ _ _) fun _ _ r _ => ?_
    split
    · exact bind (discard hI _) fun _ _ _ _ => pure_untold _
    · exact pure_untold _

theorem runTail (tail : Option (List Char)) : Gives n Untold (Cell.runTail I c tail) := by
  unfold Cell.runTail
  split
  · exact pure_untold _
  · refine bind (execute hI hc _ _ _) fun _ _ r _ => ?_
    split
    · exact pure_untold _
    · exact bind (reprOf hI _) fun _ _ _ _ => bind (discard hI _) fun _ _ _ _ => pure_untold _

omit hI hc in
theorem readLines {marker : Char} {handler : String → String → Exec Session Directive}
    (hh : ∀ directive argument, Gives n Untold (handler directive argument))
    (lines : List (List Char)) : Gives n Untold (Cell.read marker handler lines) := by
  induction lines with
  | nil => exact pure_untold _
  | cons line rest ih =>
    unfold Cell.read
    split
    · exact bind (hh _ _) fun _ hk _ _ => bind (ih.mono hk) fun _ _ _ _ => pure_untold _
    · exact bind ih fun _ _ _ _ => pure_untold _

omit hI hc in
theorem splitTail {isExpression : List Char → Exec Session Bool}
    (he : ∀ line, Gives n Untold (isExpression line)) (lines : List (List Char)) :
    Gives n Untold (Cell.splitTail isExpression lines) := by
  unfold Cell.splitTail
  split
  · exact pure_untold _
  · split
    · refine bind (he _) fun _ _ b _ => ?_
      split <;> exact pure_untold _
    · exact pure_untold _

/-- Running a cell leaves an orderly state where the handler does. -/
theorem runCell (source : String) (marker : Char)
    {handler : String → String → Exec Session Directive}
    (hh : ∀ directive argument, Gives n Untold (handler directive argument)) :
    Gives n Untold (Cell.run I c source marker handler) := by
  unfold Cell.run
  refine bind (startCapture hI hc) fun k₁ hk₁ _ _ => ?_
  refine bind (drain hI (hc.mono hk₁)) fun k₂ hk₂ _ _ => ?_
  have hk₂ := Nat.le_trans hk₁ hk₂
  refine bind ((readLines hh _).mono hk₂) fun k₃ hk₃ reading _ => ?_
  refine bind (splitTail (fun line => compiles hI _ _) _) fun k₄ hk₄ pieces _ => ?_
  have hk₄ := Nat.le_trans hk₂ (Nat.le_trans hk₃ hk₄)
  refine bind (runBody hI (hc.mono hk₄) _) fun k₅ hk₅ fine _ => ?_
  have hk₅ := Nat.le_trans hk₄ hk₅
  split
  · exact bind (runTail hI (hc.mono hk₅) _) fun k₆ hk₆ _ _ =>
      bind (drain hI (hc.mono (Nat.le_trans hk₅ hk₆))) fun _ _ _ _ => pure_untold _
  · exact bind (pure_untold _) fun k₆ hk₆ _ _ =>
      bind (drain hI (hc.mono (Nat.le_trans hk₅ hk₆))) fun _ _ _ _ => pure_untold _

end

/-! ### The registry and the descriptors -/

theorem count (f : Stats → Stats) : Gives n Untold (World.count f : Exec Session Unit) :=
  modify fun _ hw => ⟨hw.of_eq rfl rfl rfl rfl, rfl⟩

theorem drawLambdaId : Gives n Untold (World.drawLambdaId : Exec Session Ident) :=
  modifyGet fun _ hw _ => ⟨hw.of_eq rfl rfl rfl rfl, rfl, trivial⟩

theorem drawSourceId : Gives n Untold (World.drawSourceId : Exec Session Ident) :=
  modifyGet fun _ hw _ => ⟨hw.of_eq rfl rfl rfl rfl, rfl, trivial⟩

theorem acquireDescriptor (id : Ident) :
    Gives n Untold (World.acquireDescriptor id : Exec Session Nat) :=
  modifyGet fun _ hw _ => ⟨hw.of_eq rfl rfl rfl rfl, rfl, trivial⟩

theorem releaseDescriptor (i : Nat) :
    Gives n Untold (World.releaseDescriptor i : Exec Session Unit) :=
  modify fun _ hw => ⟨hw.of_eq rfl rfl rfl rfl, rfl⟩

theorem register (id : Ident) (shape : Shape) {call : Closure} (hcall : call.Within n) :
    Gives n Untold (World.register id shape call : Exec Session _) := by
  intro w hw hn
  rw [World.run_register]
  cases hr : w.registry.insert id shape call with
  | ok registry => exact ⟨hw.registered (hcall.mono hn) hr, Nat.le_refl _, fun _ _ => trivial⟩
  | error e => exact ⟨hw, Nat.le_refl _, fun _ _ => trivial⟩

theorem unregister (id : Ident) : Gives n Untold (World.unregister id : Exec Session Bool) :=
  modifyGet fun _ hw _ => ⟨hw.unregistered id, rfl, trivial⟩

/-! ### The binding and contexts over it -/

/-- The interpreter that is bound runs scripts itself. -/
theorem current : Gives n (OfOk MachineId.Within) (Dispatch.current : Exec Session _) := by
  refine bind_get fun w hw hn => ?_
  cases hm : w.bound with
  | none => exact ⟨hw, Nat.le_refl _, ofOk_ok (ofOk_error _)⟩
  | some m => exact ⟨hw, Nat.le_refl _, ofOk_ok (ofOk_ok (hw.bound m hm))⟩

theorem isBound : Gives n Untold (Binding.isBound : Exec Session Bool) :=
  fun _ hw _ => ⟨hw, Nat.le_refl _, fun _ _ => trivial⟩

theorem bindMachine {m : MachineId} (hm : m.Within n) :
    Gives n Untold (Binding.install m : Exec Session Bool) := by
  refine modifyGet fun w hw hn => ?_
  split
  · exact ⟨hw, rfl, trivial⟩
  · exact ⟨hw.binding (hm.mono hn), rfl, trivial⟩

theorem ofGlobals {m : MachineId} (hm : m.Within n) {globals : Option Ref}
    (h : RefWithin n globals) :
    Gives n (OfOk Context.Within) (Context.ofGlobals m globals : Exec Session _) := by
  cases globals with
  | none => exact pure fun _ _ => ofOk_error _
  | some globals =>
    refine modifyGet fun w hw hn => ⟨hw.of_eq rfl rfl rfl rfl, rfl, ofOk_ok ?_⟩
    exact ⟨Nat.lt_of_lt_of_le (refWithin_some.mp h) hn, hm.mono hn⟩

section

variable {call : Script.Caller Bench} (hc : call.Gives)
include hc

theorem ofMachine {m : MachineId} (hm : m.Within n) :
    Gives n (OfOk Context.Within) (Context.ofMachine (Bench.machine call) m) := by
  have hI := Bench.gives_machine hc hm
  exact bind (quiet (hI.mainDict hm.pos)) fun _ hk _ hr => ofGlobals (hm.mono hk) hr

theorem main : Gives n (OfOk Context.Within) (Context.main (Bench.machine call)) := by
  unfold Context.main
  refine bind current fun k _ bound hbound => ?_
  split
  · exact pure fun _ _ => ofOk_error _
  · next m => exact ofMachine hc (hbound m rfl)

theorem isolated {m : MachineId} (hm : m.Within n) :
    Gives n (OfOk Context.Within) (Context.isolated (Bench.machine call) m) := by
  have hI := Bench.gives_machine hc hm
  exact bind (quiet hI.newDict) fun _ hk _ hr => ofGlobals (hm.mono hk) hr

/-! ### The router -/

theorem miss {m : MachineId} (hm : m.Within n) :
    Gives n RefWithin (Dispatch.miss (Bench.machine call m)) :=
  bind (count _) fun _ _ _ _ =>
    quiet ((Bench.gives_machine hc hm).buildValue (v := .none) trivial)

omit hc in
theorem argumentError : Gives n RefWithin (Dispatch.argumentError : Exec Session _) :=
  bind (count _) fun _ _ _ _ => pure fun _ _ => refWithin_none

/-- The closure that the router finds makes up no references, so its result is there. -/
theorem route {host : Program .value → Exec Session HostValue}
    (hh : ∀ {n} {p : Program .value}, p.Within n → Gives n HostValue.Within (host p))
    (self args : Option Ref) :
    Gives n RefWithin (Dispatch.route (Bench.machine call) host self args) := by
  unfold Dispatch.route
  refine bind current fun k _ bound hbound => ?_
  split
  · next m =>
    have hm : m.Within k := hbound m rfl
    have hI := Bench.gives_machine hc hm
    refine bind (quiet (hI.textOf self)) fun k' hk' text _ => ?_
    split
    · refine bind_get fun w hw hn => ?_
      split
      · next shape call' hget =>
        have hcall : call'.Within w.extent := hw.closures _ _ _ hget
        refine bind (quiet (Quiet.Gives.parseIn hI args _)) (fun k₁ hk₁ arguments harguments => ?_)
          w hw (Nat.le_refl _)
        split
        · next arguments =>
          have hrun := hh (hcall k₁ hk₁ arguments (harguments arguments rfl))
          refine bind hrun fun k₂ _ value hvalue => ?_
          refine bind (quiet (Quiet.Gives.buildOut hI hvalue _)) fun _ _ out hout => ?_
          split
          · exact pure fun _ hk => hout.mono hk
          · exact argumentError
        · exact argumentError
      · exact miss hc (hm.mono hk') w hw hn
    · exact miss hc (hm.mono hk')
  · exact pure fun _ _ => refWithin_none

/-- **A call of the router gives an object that is there**, where the closures do. -/
theorem dispatch {host : Program .value → Exec Session HostValue}
    (hh : ∀ {n} {p : Program .value}, p.Within n → Gives n HostValue.Within (host p))
    (self args : Option Ref) :
    Gives n RefWithin (Dispatch.dispatch (Bench.machine call) host self args) := by
  unfold Dispatch.dispatch
  refine bind (count _) fun _ _ _ _ => ?_
  refine bind (route hc hh self args).catchPanic fun _ _ r hr => ?_
  split
  · next out => exact pure fun _ hk => (hr out rfl).mono hk
  · refine bind (count _) fun _ _ _ _ => bind current fun _ _ bound hbound => ?_
    split
    · next m =>
      have hI := Bench.gives_machine hc (hbound m rfl)
      exact bind (quiet (hI.raiseRuntimeError _)) fun _ _ _ _ => pure fun _ _ => refWithin_none
    · exact pure fun _ _ => refWithin_none

end

end Exec.Gives

end ClosureBridge
