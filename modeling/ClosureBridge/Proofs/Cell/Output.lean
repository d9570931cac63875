import ClosureBridge.Proofs.Capture.Start
import ClosureBridge.Proofs.Cell.Split
import ClosureBridge.Proofs.Interpreter.Show
import ClosureBridge.Proofs.Session.Runs

/-!
# What a cell puts out

A cell puts out what was written while it ran, then the texts of its magic lines, then the value of
its last line. What was written is told by the events in between.

## Main definitions

* `Cell.directives`, `Cell.splice`: the magic lines of a cell, and its lines with their source in
  their place.
* `Cell.act`: what a cell does between the two times that it reads its output.
* `Cell.Course`: the four ways in which the pieces of a cell end.

## Main statements

* `Cell.read_eq`: the handler runs once for each magic line, in order.
* `Cell.run_runBody_eq_ok_iff`: what the lines before the last one do.
* `Cell.course_of_run`: the pieces of a cell end in one of the four ways.
* `Cell.run_eq_written`: what a cell puts out.
-/

namespace ClosureBridge

open Script (Event Store)

namespace Cell

variable {ι : Type}

/-! ### The magic lines -/

/-- The directive and the argument of a line that starts with the marker. -/
def directive? (marker : Char) (line : List Char) : Option (String × String) :=
  (magic? marker line).map fun magic =>
    (String.ofList (splitDirective magic).1, String.ofList (splitDirective magic).2)

/-- The directives of lines, in order. -/
def directives (marker : Char) (lines : List (List Char)) : List (String × String) :=
  lines.filterMap (directive? marker)

/-- The lines of the source that a handler gives. -/
def codeLines (outcome : Directive) : List (List Char) :=
  (outcome.code.map fun s => Lines.ofChars s.toList).getD []

/-- Lines with the source of their magic lines in their place. -/
def splice (marker : Char) : List (List Char) → List Handled → List (List Char)
  | [], _ => []
  | line :: rest, handled =>
    match directive? marker line, handled with
    | none, handled => line :: splice marker rest handled
    | some _, h :: handled => codeLines h.outcome ++ splice marker rest handled
    | some _, [] => splice marker rest []

/-- Handle a directive. -/
def handle (handler : String → String → Exec (World ι) Directive) (d : String × String) :
    Exec (World ι) Handled := do
  return ⟨d.1, d.2, ← handler d.1 d.2⟩

/-- The handler runs once for each magic line, in order, before anything else is done. -/
theorem read_eq (marker : Char) (handler : String → String → Exec (World ι) Directive)
    (lines : List (List Char)) :
    read marker handler lines = (do
      let handled ← (directives marker lines).mapM (handle handler)
      return ⟨splice marker lines handled, handled⟩) := by
  induction lines with
  | nil => rfl
  | cons line rest ih =>
    rw [read, ih]
    cases hmagic : magic? marker line with
    | none =>
      have hline : directive? marker line = none := by rw [directive?, hmagic]; rfl
      have hrest : directives marker (line :: rest) = directives marker rest :=
        List.filterMap_cons_none hline
      simp only [hrest, bind_assoc, pure_bind]
      refine congrArg _ (funext fun handled => ?_)
      simp only [splice, hline]
    | some magic =>
      have hline : directive? marker line = some (String.ofList (splitDirective magic).1,
          String.ofList (splitDirective magic).2) := by rw [directive?, hmagic]; rfl
      have hrest : directives marker (line :: rest) = _ :: directives marker rest :=
        List.filterMap_cons_some hline
      simp only [hrest, List.mapM_cons, handle, bind_assoc, pure_bind]
      refine congrArg _ (funext fun outcome => congrArg _ (funext fun handled => ?_))
      simp only [splice, hline, codeLines]

/-! ### What a cell does -/

/-- Run the pieces of a cell: the last line only if there was no error in the others. -/
def evaluate (I : Interpreter ι) (c : Context) (pieces : List (List Char) × Option (List Char)) :
    Exec (World ι) (Option String) := do
  if ← runBody I c pieces.1 then runTail I c pieces.2 else return none

/-- What a cell does between the two times that it reads its output: its magic lines are handled, it
is split, and the pieces are run. -/
def act (I : Interpreter ι) (c : Context) (source : String) (marker : Char)
    (handler : String → String → Exec (World ι) Directive) :
    Exec (World ι) (List Handled × Option String) := do
  let handled ← (directives marker (Lines.ofChars source.toList)).mapM (handle handler)
  let pieces ← splitTail (isExpression I)
    (dropBlankEnd (splice marker (Lines.ofChars source.toList) handled))
  return (handled, ← evaluate I c pieces)

/-- A cell reads its output before it acts, to leave it out, and afterwards. -/
theorem run_eq_act (I : Interpreter ι) (c : Context) (source : String) (marker : Char)
    (handler : String → String → Exec (World ι) Directive) :
    run I c source marker handler = (do
      let _ ← Capture.start I c
      let _ ← Capture.drain I c
      let (handled, shown) ← act I c source marker handler
      let written ← Capture.drain I c
      return (written ++ inlineText handled ++ shown.getD "", handled)) := by
  simp only [run, act, evaluate, read_eq, bind_assoc, pure_bind]
  refine congrArg _ (funext fun _ => congrArg _ (funext fun _ => congrArg _ (funext fun handled =>
    congrArg _ (funext fun pieces => congrArg _ (funext fun fine => ?_)))))
  cases fine <;> simp only [if_true, Bool.false_eq_true, if_false, pure_bind]

/-- Acting keeps what the operations of the context and the handler keep. -/
theorem keeps_act {P : Session → Prop} {I : Interpreter Bench.Outside} {c : Context}
    (hc : Context.Keeps P I c) (source : String) (marker : Char)
    {handler : String → String → Exec Session Directive}
    (hh : ∀ directive argument, Exec.Keeps P (handler directive argument)) :
    Exec.Keeps P (act I c source marker handler) := by
  unfold act
  refine Exec.Keeps.bind (.mapM (fun d => ?_) _) fun handled => ?_
  · exact .bind (hh _ _) fun _ => .pure _
  · refine Exec.Keeps.bind (Context.Keeps.splitTail (fun line => hc.compiles _ _) _)
      fun pieces => ?_
    refine Exec.Keeps.bind (.bind (hc.runBody _) fun fine => ?_) fun shown => .pure _
    split
    · exact hc.runTail _
    · exact .pure _

/-! ### How the pieces end -/

/-- What the value of a line is shown by: nothing for the object that stands for none. -/
def display (w : Session) (value : Ref) : Option String :=
  match w.outside.store.heap.get (some value) with
  | .none => none
  | _ => some (w.outside.store.heap.repr w.descriptors (some value))

/-- The lines before the last one are executed as a file, with errors shown, unless they are blank;
then nothing is done. The object that is given is not needed, but tells that there was no error. -/
theorem run_runBody_eq_ok_iff {call : Script.Caller Bench} {k : Nat} {c : Context}
    {lines : List (List Char)} {w v : Session} {b : Bool} :
    (runBody (Script.interface call k) c lines).run w = (.ok b, v) ↔
      if isBlankLine (Lines.join lines) then b = true ∧ v = w
      else ∃ r, (c.execute (Script.interface call k) (String.ofList (Lines.join lines)) .file
        true).run w = (.ok r, v) ∧ b = r.isSome := by
  unfold runBody
  dsimp only
  by_cases hblank : isBlankLine (Lines.join lines) = true
  · rw [if_pos hblank, if_pos hblank]
    constructor
    · rintro ⟨⟩
      exact ⟨rfl, rfl⟩
    · rintro ⟨rfl, rfl⟩
      rfl
  · rw [if_neg hblank, if_neg hblank, Exec.run_bind]
    rcases (c.execute (Script.interface call k) (String.ofList (Lines.join lines)) .file true).run w
      with ⟨stop | _ | r, u⟩
    · constructor
      · rintro ⟨⟩
      · rintro ⟨_, ⟨⟩, -⟩
    · constructor
      · rintro ⟨⟩
        exact ⟨none, rfl, rfl⟩
      · rintro ⟨_, ⟨⟩, rfl⟩
        rfl
    · constructor
      · rintro ⟨⟩
        exact ⟨some r, rfl, rfl⟩
      · rintro ⟨_, ⟨⟩, rfl⟩
        rfl

/-- How the pieces of a cell end, with what is shown and the state that is left. What the lines
before the last one do is told by `run_runBody_eq_ok_iff`. -/
inductive Course (I : Interpreter Bench.Outside) (c : Context) (lines : List (List Char))
    (tail : Option (List Char)) (w : Session) : Option String → Session → Prop where
  /-- There is an error in the lines before the last one, which is not evaluated. -/
  | bodyFailed {v : Session} (hbody : (runBody I c lines).run w = (.ok false, v)) :
    Course I c lines tail w none v
  /-- No line is evaluated on its own. -/
  | noTail {v : Session} (hbody : (runBody I c lines).run w = (.ok true, v))
    (htail : tail = none) : Course I c lines tail w none v
  /-- There is an error in the last line. -/
  | tailFailed {u v : Session} {line : List Char}
    (hbody : (runBody I c lines).run w = (.ok true, u)) (htail : tail = some line)
    (heval : (c.execute I (String.ofList line) .eval true).run u = (.ok none, v)) :
    Course I c lines tail w none v
  /-- The last line has a value. -/
  | valued {u v : Session} {line : List Char} {value : Ref}
    (hbody : (runBody I c lines).run w = (.ok true, u)) (htail : tail = some line)
    (heval : (c.execute I (String.ofList line) .eval true).run u = (.ok (some value), v)) :
    Course I c lines tail w (display v value) v

/-- A value is shown unless it is the object that stands for none. -/
theorem filter_repr (w : Session) (value : Ref) :
    (some (w.outside.store.heap.repr w.descriptors (some value))).filter (· != "None") =
      display w value := by
  have hnone := Script.Heap.repr_eq_none_iff w.outside.store.heap w.descriptors value
  unfold display
  split
  · next h =>
    rw [hnone.mpr h]
    rfl
  · next h =>
    have hne : w.outside.store.heap.repr w.descriptors (some value) ≠ "None" :=
      fun htext => h (hnone.mp htext)
    rw [Option.filter_some, if_pos (bne_iff_ne.mpr hne)]

variable {call : Script.Caller Bench} {k : Nat} {c : Context}

theorem run_reprOf (value : Ref) (w : Session) :
    (Context.reprOf (Script.interface call k) (some value)).run w =
      (.ok (some (w.outside.store.heap.repr w.descriptors (some value))), w) := rfl

/-- The pieces of a cell end in one of four ways. -/
theorem course_of_run {pieces : List (List Char) × Option (List Char)} {w v : Session}
    {shown : Option String}
    (h : (evaluate (Script.interface call k) c pieces).run w = (.ok shown, v)) :
    Course (Script.interface call k) c pieces.1 pieces.2 w shown v := by
  unfold evaluate at h
  rw [Exec.run_bind] at h
  rcases hbody : (runBody (Script.interface call k) c pieces.1).run w with ⟨_ | _ | _, u⟩
  · rw [hbody] at h
    cases h
  · rw [hbody] at h
    cases h
    exact .bodyFailed hbody
  · rw [hbody] at h
    dsimp only at h
    rw [if_pos rfl] at h
    cases htail : pieces.2 with
    | none =>
      rw [htail] at h
      cases h
      exact .noTail hbody rfl
    | some line =>
      rw [htail] at h
      unfold runTail at h
      dsimp only at h
      rw [Exec.run_bind] at h
      rcases heval : (c.execute (Script.interface call k) (String.ofList line) .eval true).run u
        with ⟨_ | _ | value, x⟩
      · rw [heval] at h
        cases h
      · rw [heval] at h
        cases h
        exact .tailFailed hbody rfl heval
      · rw [heval] at h
        dsimp only at h
        rw [Exec.run_bind_of_ok (run_reprOf value x), filter_repr] at h
        cases h
        exact .valued hbody rfl heval

/-! ### What is put out -/

/-- What a cell puts out when nothing is unread before it acts. -/
theorem run_of_act {I : Interpreter Bench.Outside} {source : String} {marker : Char}
    {handler : String → String → Exec Session Directive} {w w₁ s : Session} {b : Bool}
    {old : String} (hstart : (Capture.start I c).run w = (.ok b, w₁))
    (hdrain : (Capture.drain I c).run w₁ = (.ok old, s)) :
    (run I c source marker handler).run w =
      match (act I c source marker handler).run s with
      | (.error stop, v) => (.error stop, v)
      | (.ok (handled, shown), v) =>
        match (Capture.drain I c).run v with
        | (.error stop, v) => (.error stop, v)
        | (.ok text, v) => (.ok (text ++ inlineText handled ++ shown.getD "", handled), v) := by
  rw [run_eq_act, Exec.run_bind_of_ok hstart, Exec.run_bind_of_ok hdrain, Exec.run_bind]
  rcases (act I c source marker handler).run s with ⟨_ | ⟨handled, shown⟩, v⟩
  · rfl
  · dsimp only
    rw [Exec.run_bind]
    rcases (Capture.drain I c).run v with ⟨_ | _, _⟩ <;> rfl

/-- The text of a magic line ends with a line feed, which is added unless it has one. -/
theorem endLine_spec (text : String) :
    (endLine text).toList.getLast? = some '\n' ∧
      (endLine text = text ∨ endLine text = text ++ "\n") := by
  unfold endLine
  split
  · next h => exact ⟨h, .inl rfl⟩
  · refine ⟨?_, .inr rfl⟩
    rw [String.toList_append, List.getLast?_append]
    rfl

/-- An event that disturbs the capture of a context: the name of its buffer is bound, the mark of
the buffer moves, or the output of its interpreter is redirected. -/
def disturbs (c : Context) (k : Nat) (r : Ref) (e : Event) : Bool :=
  e.binds c.globals Capture.name || e.marks r || e.redirects k

section

variable (n : Nat) (c : Context) (source : String) (marker : Char) (handler : Handler)

/-- Run a cell with a number of levels of nesting. -/
def runAt : Exec Session (String × List Handled) :=
  run ((Recursion.level n).machine c.machine) c source marker fun directive argument =>
    Run.program (.level n) (handler directive argument)

/-- What a cell does between the two times that it reads its output, with a number of levels of
nesting. -/
def actAt : Exec Session (List Handled × Option String) :=
  act ((Recursion.level n).machine c.machine) c source marker fun directive argument =>
    Run.program (.level n) (handler directive argument)

/-- A cell has acted: its handler has run once for each magic line, in order, and then the pieces of
its lines, with the source of the magic lines in their place, have ended in one of four ways. -/
structure Acted (s : Session) (handled : List Handled) (shown : Option String) (v : Session) :
    Prop where
  exists_course : ∃ u u',
    ((directives marker (Lines.ofChars source.toList)).mapM (handle fun directive argument =>
      Run.program (.level n) (handler directive argument))).run s = (.ok handled, u) ∧
    (splitTail (isExpression ((Recursion.level n).machine c.machine))
      (dropBlankEnd (splice marker (Lines.ofChars source.toList) handled))).run u =
        (.ok (parts (dropBlankEnd (splice marker (Lines.ofChars source.toList) handled))), u') ∧
    Course ((Recursion.level n).machine c.machine) c
      (parts (dropBlankEnd (splice marker (Lines.ofChars source.toList) handled))).1
      (parts (dropBlankEnd (splice marker (Lines.ofChars source.toList) handled))).2 u' shown v

variable {n c source marker handler} {s v : Session} {handled : List Handled}
  {shown : Option String}

theorem machine_eq (n : Nat) {c : Context} (h : c.machine = .scripted k) :
    (Recursion.level n).machine c.machine = Script.interface (Recursion.level n).call k := by
  rw [h]
  rfl

theorem acted_of_run (hmachine : c.machine = .scripted k)
    (h : (actAt n c source marker handler).run s = (.ok (handled, shown), v)) :
    Acted n c source marker handler s handled shown v := by
  have hI : (Recursion.level n).machine c.machine =
      Bench.machine (Recursion.level n).call (.scripted k) := machine_eq n hmachine
  unfold actAt act at h
  rw [hI, Exec.run_bind] at h
  rcases hhandled : ((directives marker (Lines.ofChars source.toList)).mapM
    (handle fun directive argument =>
      Run.program (.level n) (handler directive argument))).run s with ⟨_ | done, u⟩
  · rw [hhandled] at h
    cases h
  · rw [hhandled] at h
    dsimp only at h
    obtain ⟨u', hsplit⟩ := run_splitTail (Recursion.level n).call k
      (dropBlankEnd (splice marker (Lines.ofChars source.toList) done)) u
    rw [Exec.run_bind_of_ok hsplit, Exec.run_bind] at h
    rcases hcourse : (evaluate (Bench.machine (Recursion.level n).call (.scripted k)) c
      (parts (dropBlankEnd (splice marker (Lines.ofChars source.toList) done)))).run u'
      with ⟨_ | value, v'⟩
    · rw [hcourse] at h
      cases h
    · rw [hcourse] at h
      cases h
      refine ⟨u, u', hhandled, ?_, ?_⟩
      · rw [hI]
        exact hsplit
      · rw [hI]
        exact course_of_run hcourse

theorem runAt_of_act {w w₁ : Session} {b : Bool} {old : String}
    (hstart : (Capture.start ((Recursion.level n).machine c.machine) c).run w = (.ok b, w₁))
    (hdrain : (Capture.drain ((Recursion.level n).machine c.machine) c).run w₁ = (.ok old, s)) :
    (runAt n c source marker handler).run w =
      match (actAt n c source marker handler).run s with
      | (.error stop, v) => (.error stop, v)
      | (.ok (handled, shown), v) =>
        match (Capture.drain ((Recursion.level n).machine c.machine) c).run v with
        | (.error stop, v) => (.error stop, v)
        | (.ok text, v) => (.ok (text ++ inlineText handled ++ shown.getD "", handled), v) :=
  run_of_act hstart hdrain

/-- While a cell acts, events happen in the store and captures go on. -/
theorem advances_actAt (s : Session) :
    s.Advances ((actAt n c source marker handler).run s).2 := by
  have hP := Session.stable_advances s
  have hlevel := hP.level n
  have hops := hP.operations (hP.interpreter hlevel c.machine) c
  refine keeps_act hops source marker (fun directive argument => ?_) s (.refl s)
  exact hP.program hlevel _ ((handler directive argument).obeys_of_direct trivial)

/-- Once it has read its output a cell stops, or it acts and events happen meanwhile. -/
theorem stops_or_acts {w w₁ : Session} {b : Bool} {old : String}
    (hmachine : c.machine = .scripted k)
    (hstart : (Capture.start ((Recursion.level n).machine c.machine) c).run w = (.ok b, w₁))
    (hdrain : (Capture.drain ((Recursion.level n).machine c.machine) c).run w₁ = (.ok old, s)) :
    (∃ stop v, (actAt n c source marker handler).run s = (.error stop, v) ∧
      (runAt n c source marker handler).run w = (.error stop, v)) ∨
    ∃ handled shown v, (actAt n c source marker handler).run s = (.ok (handled, shown), v) ∧
      Acted n c source marker handler s handled shown v ∧ s.Advances v := by
  have hadvances := @advances_actAt n c source marker handler s
  rcases hact : (actAt n c source marker handler).run s with ⟨stop | ⟨handled, shown⟩, v⟩
  · refine .inl ⟨stop, v, rfl, ?_⟩
    rw [runAt_of_act hstart hdrain, hact]
  · rw [hact] at hadvances
    exact .inr ⟨handled, shown, v, rfl, acted_of_run hmachine hact, hadvances⟩

/-- A cell that starts with nothing unread puts out what is unread after it has acted, and nothing
is unread in the end. What is unread then in other buffers stays. -/
theorem run_of_listening {r : Ref} {w w₁ : Session} {b : Bool} {old : String}
    (hstart : (Capture.start ((Recursion.level n).machine c.machine) c).run w = (.ok b, w₁))
    (hdrain : (Capture.drain ((Recursion.level n).machine c.machine) c).run w₁ = (.ok old, s))
    (h : Capture.Listening c k r "" s)
    (hact : (actAt n c source marker handler).run s = (.ok (handled, shown), v))
    {es : List Event} (hes : v.outside.store = s.outside.store.after es)
    (hbinds : ∀ e ∈ es, e.binds c.globals Capture.name = false) :
    ∃ v', (runAt n c source marker handler).run w =
      (.ok (s.outside.store.unread r "" es ++ inlineText handled ++ shown.getD "", handled),
        v') ∧ Capture.Listening c k r "" v' ∧ Capture.Spares r v v' := by
  have hadvances := @advances_actAt n c source marker handler s
  rw [hact] at hadvances
  obtain ⟨v', hends, hlistening, -, hspares⟩ :=
    (h.after hes hbinds (hadvances.capturing h.capturing)).exists_run_drain (Recursion.level n).call
  refine ⟨v', ?_, hlistening, hspares⟩
  rw [runAt_of_act hstart hdrain, hact]
  dsimp only
  rw [machine_eq n h.machine, hends]

end

/-- **What a cell puts out.** Over a namespace with a buffer, which the output of the interpreter
goes to, a cell reads what is unread first. Then it acts: its handler runs once for each magic line,
in order, and the pieces of its lines end in one of four ways. As long as nothing that runs
meanwhile disturbs the capture, output goes to the buffer throughout, and the cell puts out what was
written to the buffer, the texts of its magic lines, each ending with a line feed, and what the
value of its last line is shown by, if it has one. -/
theorem run_eq_written (n : Nat) {c : Context} {k : Nat} {r : Ref} {w : Session}
    (h : Capture.Holds c k r w) (hsink : w.outside.store.sink? k = some r) (source : String)
    (marker : Char) (handler : Handler) :
    (∃ w₁ old s,
      (Capture.start ((Recursion.level n).machine c.machine) c).run w = (.ok true, w₁) ∧
      (Capture.drain ((Recursion.level n).machine c.machine) c).run w₁ = (.ok old, s) ∧
      ((∃ stop v, (actAt n c source marker handler).run s = (.error stop, v) ∧
          (runAt n c source marker handler).run w = (.error stop, v)) ∨
        ∃ handled shown v, (actAt n c source marker handler).run s = (.ok (handled, shown), v) ∧
          Acted n c source marker handler s handled shown v ∧
          (∃ es, v.outside.store = s.outside.store.after es) ∧
          ∀ es, v.outside.store = s.outside.store.after es →
            (∀ e ∈ es, disturbs c k r e = false) →
              (∀ before, before <+: es → (s.outside.store.after before).sink? k = some r) ∧
              ∃ v', (runAt n c source marker handler).run w =
                (.ok (s.outside.store.written r es ++ inlineText handled ++ shown.getD "",
                  handled), v'))) ∧
      ∀ text, (endLine text).toList.getLast? = some '\n' ∧
        (endLine text = text ∨ endLine text = text ++ "\n") := by
  refine ⟨?_, endLine_spec⟩
  obtain ⟨w₁, old, s, hstart, hdrain, hlistening, hsinks, -⟩ := h.begins (Recursion.level n).call
  rw [← machine_eq n h.machine] at hstart hdrain
  refine ⟨w₁, old, s, hstart, hdrain, (stops_or_acts h.machine hstart hdrain).imp_right ?_⟩
  rintro ⟨handled, shown, v, hact, hacted, hadvances⟩
  refine ⟨handled, shown, v, hact, hacted, hadvances.events, ?_⟩
  intro es hes hcalm
  have hcalm' : ∀ e ∈ es, e.binds c.globals Capture.name = false ∧ e.marks r = false ∧
      e.redirects k = false := fun e he => by
    simpa [disturbs, and_assoc] using hcalm e he
  refine ⟨fun before hbefore => ?_, ?_⟩
  · have hstays : ∀ e ∈ before, e.redirects k = false := fun e he =>
      (hcalm' e (hbefore.mem he)).2.2
    rw [Store.sink?_after _ hstays, hsinks, hsink]
  · obtain ⟨v', hrun, -⟩ := run_of_listening hstart hdrain hlistening hact hes
      fun e he => (hcalm' e he).1
    rw [Store.unread_of_unmarked _ _ fun e he => (hcalm' e he).2.1, String.empty_append] at hrun
    exact ⟨v', hrun⟩

/-- A state in which the main namespace holds a buffer, which output goes to. -/
def tapped : Session where
  bound := some (.scripted 0)
  capturing := #[true]
  outside := {
    store := {
      heap := ⟨#[.dict ⟨[(Capture.name, some 2)]⟩, .dict ∅, .output {}]⟩
      machines := #[{ main := 0, builtins := 1, sink := some 2 }] }
    rest := {} }

/-- The context over the main namespace of that state. -/
def tapping : Context where
  number := 0
  machine := .scripted 0
  globals := 0

/-- The handler that puts out the argument. -/
def noting : Handler := fun _ argument => .done { inline := some argument }

theorem holds_tapped : Capture.Holds tapping 0 2 tapped where
  machine := rfl
  opened := by decide
  bound := by decide
  buffer := rfl
  marked
    | 0, b, hb => by cases hb
    | 1, b, hb => by cases hb
    | 2, b, hb => by
      cases hb
      rfl
    | r + 3, b, hb => by cases hb

/-- The state in which a cell acts, once it has started to capture and has read what was unread. -/
def begun (c : Context) (w : Session) : Session :=
  ((Capture.drain ((Recursion.level 1).machine c.machine) c).run
    ((Capture.start ((Recursion.level 1).machine c.machine) c).run w).2).2

theorem eq_begun {c : Context} {w w₁ s : Session} {b : Bool} {old : String}
    (hstart : (Capture.start ((Recursion.level 1).machine c.machine) c).run w = (.ok b, w₁))
    (hdrain : (Capture.drain ((Recursion.level 1).machine c.machine) c).run w₁ = (.ok old, s)) :
    s = begun c w := by
  rw [begun, hstart, hdrain]

/-- A cell with a magic line, a line that prints and a line that has a value. -/
def notedSource : String := "%note hi\nprint('x')\n1 + 2"

/-- What happens while that cell acts: the last line is compiled as an expression, the line before
it is run, and the last line is evaluated. -/
def noted : List Event :=
  [.made .code rfl,
    .ran 0 "print('x')", .made (.text "x") rfl, .printed 0 "x", .printed 0 "\n",
    .made .none Script.Object.isBuffer_none, .made .none Script.Object.isBuffer_none,
    .ran 0 "1 + 2", .made (.integer (.ofNat 1)) rfl, .made (.integer (.ofNat 2)) rfl,
    .made (.integer (.ofNat 3)) rfl]

/-- Whether the cell acts like that in a state, with a text for its magic line and a value for its
last line. -/
def actsNoted (s : Session) : Bool :=
  ((actAt 1 tapping notedSource '%' noting).run s).1.toOption.map
      (fun given => (inlineText given.1, given.2)) == some ("hi\n", some "3") &&
    ((actAt 1 tapping notedSource '%' noting).run s).2.outside.store.isSame
      (s.outside.store.after noted)

theorem exists_of_actsNoted {s : Session} (h : actsNoted s = true) :
    ∃ handled v, (actAt 1 tapping notedSource '%' noting).run s = (.ok (handled, some "3"), v) ∧
      inlineText handled = "hi\n" ∧ v.outside.store = s.outside.store.after noted := by
  obtain ⟨hbeq, hsame⟩ := Bool.and_eq_true_iff.mp h
  have hgiven := eq_of_beq hbeq
  have hstore := Store.eq_of_isSame hsame
  rcases hact : (actAt 1 tapping notedSource '%' noting).run s with ⟨stop | ⟨handled, shown⟩, v⟩
  · rw [hact] at hgiven
    cases hgiven
  · rw [hact] at hgiven hstore
    obtain ⟨hinline, hshown⟩ := Prod.mk.inj (Option.some.inj hgiven)
    dsimp only at hinline hshown
    rw [hshown]
    exact ⟨handled, v, rfl, hinline, hstore⟩

/-- It puts out what it has printed, then the text of the magic line on a line of its own, then the
value of its last line. -/
theorem run_eq_written_noted :
    Capture.Holds tapping 0 2 tapped ∧ tapped.outside.store.sink? 0 = some 2 ∧
      (∀ e ∈ noted, disturbs tapping 0 2 e = false) ∧
      ∃ handled v', (runAt 1 tapping notedSource '%' noting).run tapped =
        (.ok ("x\n" ++ "hi\n" ++ "3", handled), v') := by
  have hsink : tapped.outside.store.sink? 0 = some 2 := rfl
  have hcalm : ∀ e ∈ noted, disturbs tapping 0 2 e = false := by decide
  have htext : (begun tapping tapped).outside.store.written 2 noted = "x\n" := by decide +kernel
  have hacts : actsNoted (begun tapping tapped) = true := by decide +kernel
  obtain ⟨handled, v, hact, hinline, hstore⟩ := exists_of_actsNoted hacts
  obtain ⟨⟨w₁, old, s, hstart, hdrain, hcases⟩, -⟩ :=
    run_eq_written 1 holds_tapped hsink notedSource '%' noting
  rw [eq_begun hstart hdrain] at hcases
  refine ⟨holds_tapped, hsink, hcalm, handled, ?_⟩
  rcases hcases with ⟨stop, v, herror, -⟩ | ⟨handled', shown, v', hact', -, -, hwritten⟩
  · cases hact.symm.trans herror
  · cases hact.symm.trans hact'
    obtain ⟨-, v', hrun⟩ := hwritten noted hstore hcalm
    rw [htext, hinline] at hrun
    exact ⟨v', hrun⟩

end Cell

end ClosureBridge
