import ClosureBridge.Proofs.Session.Keeps

/-!
# What the operations of a context keep

The operations of a context are put together from those of its interpreter, and captured output and
cells from a few operations of the context. What keeps a property is put together likewise.

## Main definitions

* `Context.Keeps`: the operations that captured output and cells are made of keep a property.

## Main statements

* `Session.Steady.execute`: running source in a context keeps what running it in the interpreter
  keeps; the other operations of a context keep what is steady.
* `Context.Keeps.drain`, `Context.Keeps.runCell`: reading captured output and running a cell keep
  what the operations of the context do.
-/

namespace ClosureBridge

open Exec (Keeps)

theorem Context.run_isCapturing (c : Context) (w : Session) :
    (c.isCapturing : Exec Session Bool).run w =
      (.ok ((w.capturing[c.number]?).getD false), w) := rfl

theorem Context.run_isCapturing_of_capturing {c : Context} {w : Session}
    (h : w.capturing[c.number]? = some true) :
    (c.isCapturing : Exec Session Bool).run w = (.ok true, w) := by
  rw [run_isCapturing, h, Option.getD_some]

theorem Context.run_isCapturing_of_idle {c : Context} {w : Session}
    (h : w.capturing[c.number]? ≠ some true) :
    (c.isCapturing : Exec Session Bool).run w = (.ok false, w) := by
  rw [run_isCapturing]
  cases hflag : w.capturing[c.number]? with
  | none => rfl
  | some capturing =>
    cases capturing with
    | false => rfl
    | true => exact absurd hflag h

theorem Context.keeps_isCapturing {P : Session → Prop} (c : Context) :
    Keeps P (c.isCapturing : Exec Session Bool) :=
  .bind .get fun _ => .pure _

namespace Session.Steady

variable {raises writes : Prop} {P : Session → Prop} {I : Interpreter Bench.Outside}

/-! ### Operations that raise no error -/

section

variable (hP : Steady raises writes P) (hI : I.Calm)
include hP hI

theorem reportError {showErrors : Bool} (hw : showErrors = true → writes) :
    Keeps P (Context.reportError I showErrors) := by
  unfold Context.reportError
  refine Keeps.bind (hP.quiet hI.errorOccurred) fun pending => ?_
  split
  · split
    · next hshow => exact hP.quiet (hI.printError (hw hshow))
    · exact hP.quiet hI.clearError
  · exact .pure _

theorem getGlobal (c : Context) (name : String) : Keeps P (Context.getGlobal I c name) := by
  unfold Context.getGlobal
  split
  · exact hP.quiet (hI.dictGet _ _)
  · exact .pure _

theorem strOf (object : Option Ref) : Keeps P (Context.strOf I object) := by
  unfold Context.strOf
  refine Keeps.bind (hP.quiet (hI.strOf _)) fun text => ?_
  split
  · exact .bind (hP.quiet hI.clearError) fun _ => .pure _
  · exact .pure _

theorem reprOf (object : Option Ref) : Keeps P (Context.reprOf I object) := by
  unfold Context.reprOf
  refine Keeps.bind (hP.quiet (hI.reprOf _)) fun text => ?_
  split
  · exact .bind (hP.quiet hI.clearError) fun _ => .pure _
  · exact .pure _

theorem discard (object : Option Ref) : Keeps P (Context.discard I object) :=
  hP.quiet (hI.decref _)

end

/-! ### Operations that may raise an error -/

section

variable (hP : Steady True writes P) (hI : I.Calm)
include hP hI

theorem ensureBuiltins (c : Context) : Keeps P (Context.ensureBuiltins I c) := by
  unfold Context.ensureBuiltins
  refine Keeps.bind (hP.quiet (hI.dictGet _ _)) fun bound => ?_
  split
  · refine Keeps.bind (hP.quiet hI.builtins) fun builtins => ?_
    split
    · refine Keeps.bind (hP.quiet (hI.dictSet _ _ _)) fun stored => ?_
      split
      · exact .pure _
      · exact hP.quiet hI.clearError
    · exact .pure _
  · exact .pure _

theorem execute (c : Context) {source : String} {mode : Mode}
    (hs : ∀ scope, Keeps P (I.runString source mode scope)) {showErrors : Bool}
    (hw : showErrors = true → writes) :
    Keeps P (Context.execute I c source mode showErrors) := by
  unfold Context.execute
  split
  · refine Keeps.bind (hP.ensureBuiltins hI c) fun _ => ?_
    refine Keeps.bind (hs _) fun r => ?_
    split
    · exact .bind (hP.reportError hI hw) fun _ => .pure _
    · exact .pure _
  · exact .pure _

theorem compiles (source : String) (mode : Mode) : Keeps P (Context.compiles I source mode) := by
  unfold Context.compiles
  split
  · refine Keeps.bind (hP.quiet (hI.compile _ _ _)) fun code => ?_
    split
    · exact .bind (hP.quiet hI.clearError) fun _ => .pure _
    · exact .bind (hP.quiet (hI.decref _)) fun _ => .pure _
  · exact .pure _

theorem setGlobal (c : Context) (name : String) (value : Option Ref) :
    Keeps P (Context.setGlobal I c name value) := by
  unfold Context.setGlobal
  split
  · refine Keeps.bind (hP.quiet (hI.dictSet _ _ _)) fun stored => ?_
    split
    · exact .pure _
    · exact .bind (hP.quiet hI.clearError) fun _ => .pure _
  · exact .pure _

theorem getAttr (object : Option Ref) (name : String) :
    Keeps P (Context.getAttr I object name) := by
  unfold Context.getAttr
  split
  · refine Keeps.bind (hP.quiet (hI.getAttr _ _)) fun value => ?_
    split
    · exact .bind (hP.quiet hI.clearError) fun _ => .pure _
    · exact .pure _
  · exact .pure _

theorem setAttr (object : Option Ref) (name : String) (value : Option Ref) :
    Keeps P (Context.setAttr I object name value) := by
  unfold Context.setAttr
  split
  · refine Keeps.bind (hP.quiet (hI.setAttr _ _ _)) fun stored => ?_
    split
    · exact .pure _
    · exact .bind (hP.quiet hI.clearError) fun _ => .pure _
  · exact .pure _

end

/-- The source that captures output is run with its errors shown. -/
theorem install (hP : Steady True True P) (hI : I.Calm) (c : Context)
    (hs : ∀ scope, Keeps P (I.runString Capture.source .file scope)) :
    Keeps P (Capture.install I c) := by
  unfold Capture.install
  refine Keeps.bind (hP.getGlobal hI c _) fun bound => ?_
  split
  · exact .pure _
  · refine Keeps.bind (hP.execute hI c hs fun _ => trivial) fun r => ?_
    split
    · exact .bind (hP.discard hI _) fun _ => .pure _
    · exact .pure _

end Session.Steady

/-! ### Captured output and cells -/

/-- The operations of a context that captured output and cells are made of keep a property. -/
structure Context.Keeps (P : Session → Prop) (I : Interpreter Bench.Outside) (c : Context) :
    Prop where
  execute : ∀ source mode showErrors, Exec.Keeps P (c.execute I source mode showErrors)
  compiles : ∀ source mode, Exec.Keeps P (Context.compiles I source mode)
  getGlobal : ∀ name, Exec.Keeps P (c.getGlobal I name)
  strOf : ∀ object, Exec.Keeps P (Context.strOf I object)
  reprOf : ∀ object, Exec.Keeps P (Context.reprOf I object)
  discard : ∀ object, Exec.Keeps P (Context.discard I object)
  start : Exec.Keeps P (Capture.start I c)

namespace Context.Keeps

variable {P : Session → Prop} {I : Interpreter Bench.Outside} {c : Context}

section

variable (hc : Context.Keeps P I c)
include hc

theorem read (method : String) : Exec.Keeps P (Capture.read I c method) := by
  unfold Capture.read
  refine Exec.Keeps.bind (hc.execute _ _ _) fun r => ?_
  split
  · exact .pure _
  · exact .bind (hc.strOf _) fun _ => .bind (hc.discard _) fun _ => .pure _

theorem drain : Exec.Keeps P (Capture.drain I c) := by
  unfold Capture.drain
  refine Exec.Keeps.bind (keeps_isCapturing c) fun capturing => ?_
  split
  · refine Exec.Keeps.bind (hc.read _) fun text => ?_
    refine Exec.Keeps.bind (hc.execute _ _ _) fun r => ?_
    split
    · exact .bind (hc.discard _) fun _ => .pure _
    · exact .pure _
  · exact .pure _

theorem all : Exec.Keeps P (Capture.all I c) := by
  unfold Capture.all
  refine Exec.Keeps.bind (keeps_isCapturing c) fun capturing => ?_
  split
  · exact hc.read _
  · exact .pure _

theorem runBody (lines : List (List Char)) : Exec.Keeps P (Cell.runBody I c lines) := by
  unfold Cell.runBody
  dsimp only
  split
  · exact .pure _
  · refine Exec.Keeps.bind (hc.execute _ _ _) fun r => ?_
    split
    · exact .bind (hc.discard _) fun _ => .pure _
    · exact .pure _

theorem runTail (tail : Option (List Char)) : Exec.Keeps P (Cell.runTail I c tail) := by
  unfold Cell.runTail
  split
  · exact .pure _
  · refine Exec.Keeps.bind (hc.execute _ _ _) fun r => ?_
    split
    · exact .pure _
    · exact .bind (hc.reprOf _) fun _ => .bind (hc.discard _) fun _ => .pure _

end

/-- Handling the lines keeps what the handler keeps. -/
theorem readLines {marker : Char} {handler : String → String → Exec Session Directive}
    (hh : ∀ directive argument, Exec.Keeps P (handler directive argument))
    (lines : List (List Char)) : Exec.Keeps P (Cell.read marker handler lines) := by
  induction lines with
  | nil => exact .pure _
  | cons line rest ih =>
    unfold Cell.read
    split
    · exact .bind (hh _ _) fun _ => .bind ih fun _ => .pure _
    · exact .bind ih fun _ => .pure _

theorem splitTail {isExpression : List Char → Exec Session Bool}
    (he : ∀ line, Exec.Keeps P (isExpression line)) (lines : List (List Char)) :
    Exec.Keeps P (Cell.splitTail isExpression lines) := by
  unfold Cell.splitTail
  split
  · exact .pure _
  · split
    · refine Exec.Keeps.bind (he _) fun b => ?_
      split <;> exact .pure _
    · exact .pure _

/-- Running a cell keeps what the operations of its context and the handler keep. -/
theorem runCell (hc : Context.Keeps P I c) (source : String) (marker : Char)
    {handler : String → String → Exec Session Directive}
    (hh : ∀ directive argument, Exec.Keeps P (handler directive argument)) :
    Exec.Keeps P (Cell.run I c source marker handler) := by
  unfold Cell.run
  refine Exec.Keeps.bind hc.start fun _ => ?_
  refine Exec.Keeps.bind hc.drain fun _ => ?_
  refine Exec.Keeps.bind (readLines hh _) fun reading => ?_
  refine Exec.Keeps.bind (splitTail (fun line => hc.compiles _ _) _) fun pieces => ?_
  refine Exec.Keeps.bind (hc.runBody _) fun fine => ?_
  split
  · exact .bind (hc.runTail _) fun _ => .bind hc.drain fun _ => .pure _
  · exact .bind (.pure _) fun _ => .bind hc.drain fun _ => .pure _

end Context.Keeps

end ClosureBridge
