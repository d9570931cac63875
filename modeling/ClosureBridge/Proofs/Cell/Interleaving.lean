import ClosureBridge.Proofs.Cell.Output

/-!
# Cells over several namespaces

Every namespace has a buffer of its own, but an interpreter prints to one of them: to that of the
namespace which was the last to get one. A cell puts out what has reached the buffer of its own
namespace and is unread there. What it prints while output goes to another buffer is put out over
that other namespace.

## Main definitions

* `Cell.Delivery`: where the text goes that is printed while a cell acts.

## Main statements

* `Cell.run_eq_unread`: what a cell puts out, whatever was run before it and is run inside it.
-/

namespace ClosureBridge

open Script (Event Store)

namespace Cell

/-- Where the text goes that is printed while a cell acts, from the events in between and the state
that the cell leaves. -/
structure Delivery (n : Nat) (c : Context) (k : Nat) (r : Ref) (s : Session) (es : List Event)
    (v : Session) : Prop where
  /-- All that the interpreter prints reaches the buffer that its output goes to. -/
  reached : ∀ r' old, s.outside.store.sink? k = some r' →
    (∀ e ∈ es, e.redirects k = false ∧ e.marks r' = false) →
      s.outside.store.unread r' old es = old ++ s.outside.store.written r' es ∧
      (Store.printout k es).toList.Sublist (s.outside.store.written r' es).toList
  /-- A buffer that its output does not go to gets none of it. -/
  missed : ∀ r', s.outside.store.sink? k ≠ some r' → (∀ e ∈ es, e.redirects k = false) →
    (∀ before e, before ++ [e] <+: es → (∃ text, e = .printed k text) ∨
      e.textTo (s.outside.store.after before) r' = "") →
        s.outside.store.unread r' "" es = ""
  /-- No text reaches two buffers. -/
  apart : ∀ before e, before ++ [e] <+: es → ∀ r₁ r₂, r₁ ≠ r₂ →
    e.textTo (s.outside.store.after before) r₁ = "" ∨
      e.textTo (s.outside.store.after before) r₂ = ""
  /-- Nothing is left unread in the buffer of the cell. -/
  own : Capture.Listening c k r "" v
  /-- What has reached another buffer stays unread there, and a drain over its namespace gives it
  out. -/
  others : ∀ c' k' r' old, r' ≠ r → Capture.Listening c' k' r' old s →
    (∀ e ∈ es, e.binds c'.globals Capture.name = false) →
      Capture.Listening c' k' r' (s.outside.store.unread r' old es) v ∧
      ∃ v', (Capture.drain ((Recursion.level n).machine c'.machine) c').run v =
        (.ok (s.outside.store.unread r' old es), v')

/-- **What a cell puts out among others.** Whatever ran before it over any namespace, a cell begins
with nothing unread in the buffer of its namespace. Unless it stops, it puts out what is unread
there after it has acted, the texts of its magic lines, and what the value of its last line is shown
by.
The text that is printed meanwhile is delivered to the buffer that output goes to: that is the
buffer of the cell if it is the first over its namespace, and else the one it was before. -/
theorem run_eq_unread (n : Nat) {c : Context} {k : Nat} {w : Session} (h : Capture.Ready c k w)
    (source : String) (marker : Char) (handler : Handler) :
    ∃ r w₁ old s,
      (Capture.start ((Recursion.level n).machine c.machine) c).run w = (.ok true, w₁) ∧
      (Capture.drain ((Recursion.level n).machine c.machine) c).run w₁ = (.ok old, s) ∧
      Capture.Listening c k r "" s ∧ Capture.Spares r w s ∧
      (s.outside.store.sink? k =
        if (w.outside.store.binding? c.globals Capture.name).isSome
        then w.outside.store.sink? k else some r) ∧
      ((∃ stop v, (actAt n c source marker handler).run s = (.error stop, v) ∧
          (runAt n c source marker handler).run w = (.error stop, v)) ∨
        ∃ handled shown v, (actAt n c source marker handler).run s = (.ok (handled, shown), v) ∧
          Acted n c source marker handler s handled shown v ∧
          (∃ es, v.outside.store = s.outside.store.after es) ∧
          ∀ es, v.outside.store = s.outside.store.after es →
            (∀ e ∈ es, e.binds c.globals Capture.name = false) →
              ∃ v', (runAt n c source marker handler).run w =
                (.ok (s.outside.store.unread r "" es ++ inlineText handled ++ shown.getD "",
                  handled), v') ∧ Delivery n c k r s es v') := by
  obtain ⟨r, w₁, old, s, hstart, hdrain, hlistening, hspares, hsink⟩ :=
    h.begins (Recursion.level n).call
  rw [← machine_eq n h.machine] at hstart hdrain
  refine ⟨r, w₁, old, s, hstart, hdrain, hlistening, hspares, hsink,
    (stops_or_acts h.machine hstart hdrain).imp_right ?_⟩
  rintro ⟨handled, shown, v, hact, hacted, hadvances⟩
  refine ⟨handled, shown, v, hact, hacted, hadvances.events, fun es hes hbinds => ?_⟩
  obtain ⟨v', hrun, hown, hspares'⟩ := run_of_listening hstart hdrain hlistening hact hes hbinds
  refine ⟨v', hrun, ?_⟩
  exact {
    reached := fun r' old hsink hcalm =>
      ⟨Store.unread_of_unmarked _ old fun e he => (hcalm e he).2,
        Store.printout_sublist_written hsink fun e he => (hcalm e he).1⟩
    missed := fun r' hsink hcalm hothers => by
      refine Store.unread_of_silent _ fun before e hbefore => ?_
      rcases hothers before e hbefore with ⟨text, rfl⟩ | hsilent
      · exact Store.textTo_of_printed hsink hcalm hbefore
      · exact hsilent
    apart := fun before e _ r₁ r₂ hr => by
      by_cases htext : e.textTo (s.outside.store.after before) r₁ = ""
      · exact .inl htext
      · exact .inr (Store.textTo_eq_empty hr.symm htext)
    own := hown
    others := fun c' k' r' old hr h' hbinds' => by
      have hv := hspares' _ _ _ _ hr (h'.after hes hbinds' (hadvances.capturing h'.capturing))
      obtain ⟨v'', hdrained, -⟩ := hv.exists_run_drain (Recursion.level n).call
      rw [machine_eq n h'.machine]
      exact ⟨hv, v'', hdrained⟩ }

/-! ### Two namespaces -/

/-- A state in which neither the main namespace nor another one has a buffer. -/
def sharing : Session where
  bound := some (.scripted 0)
  capturing := #[false, false]
  outside := {
    store := {
      heap := ⟨#[.dict ∅, .dict ∅, .dict ∅]⟩
      machines := #[{ main := 0, builtins := 1 }] }
    rest := {} }

/-- The context over the other namespace. -/
def aside : Context where
  number := 1
  machine := .scripted 0
  globals := 2

/-- Whether the namespace of a context over the first interpreter has no buffer yet. -/
def isVacant (c : Context) (w : Session) : Bool :=
  0 < w.outside.store.machines.size && c.number < w.capturing.size &&
    w.capturing[c.number]? != some true &&
      match w.outside.store.heap.get (some c.globals) with
      | .dict names => (names.get? Capture.name).isNone
      | _ => false

theorem vacant_of_isVacant {c : Context} {w : Session} (hmachine : c.machine = .scripted 0)
    (h : isVacant c w = true) (hmarked : w.outside.store.Marked) : Capture.Vacant c 0 w := by
  unfold isVacant at h
  rw [Bool.and_eq_true, Bool.and_eq_true, Bool.and_eq_true, decide_eq_true_eq,
    decide_eq_true_eq, bne_iff_ne] at h
  obtain ⟨⟨⟨hlt, hopened⟩, hidle⟩, hnames⟩ := h
  refine ⟨hmachine, hlt, hopened, hidle, ?_, hmarked⟩
  split at hnames
  · next names hget => exact ⟨names, hget, Option.isNone_iff_eq_none.mp hnames⟩
  · cases hnames

theorem marked_sharing : sharing.outside.store.Marked
  | 0, b, hb => by cases hb
  | 1, b, hb => by cases hb
  | 2, b, hb => by cases hb
  | r + 3, b, hb => by cases hb

theorem vacant_sharing : Capture.Vacant tapping 0 sharing :=
  vacant_of_isVacant rfl (by decide +kernel) marked_sharing

/-- What a cell does once it captures output. -/
def resume {ι : Type} (I : Interpreter ι) (c : Context) (source : String) (marker : Char)
    (handler : String → String → Exec (World ι) Directive) :
    Exec (World ι) (String × List Handled) := do
  let _ ← Capture.drain I c
  let (handled, shown) ← act I c source marker handler
  let written ← Capture.drain I c
  return (written ++ inlineText handled ++ shown.getD "", handled)

theorem run_of_start {I : Interpreter Bench.Outside} {c : Context} {w w₁ : Session} {b : Bool}
    (hstart : (Capture.start I c).run w = (.ok b, w₁)) (source : String) (marker : Char)
    (handler : String → String → Exec Session Directive) :
    (run I c source marker handler).run w = (resume I c source marker handler).run w₁ := by
  rw [run_eq_act, Exec.run_bind_of_ok hstart]
  rfl

/-- The state after the first cell over a namespace. -/
def afterFirst (c : Context) (source : String) (w : Session) : Session :=
  ((resume ((Recursion.level 1).machine c.machine) c source '%' fun directive argument =>
    Run.program (.level 1) (noting directive argument)).run (Capture.started c 0 w)).2

theorem afterFirst_eq {c : Context} {w : Session} (h : Capture.Vacant c 0 w) (source : String) :
    ((runAt 1 c source '%' noting).run w).2 = afterFirst c source w := by
  have hstart := Capture.run_start_of_vacant (Recursion.level 1).call h
  rw [← machine_eq 1 h.machine] at hstart
  exact congrArg Prod.snd (run_of_start hstart _ _ _)

/-- Marks stay at characters while a cell is run. -/
theorem marked_runAt (c : Context) (source : String) {w : Session}
    (h : w.outside.store.Marked) :
    ((runAt 1 c source '%' noting).run w).2.outside.store.Marked := by
  have hlevel := Capture.stable_marked.level 1
  have hops := Capture.stable_marked.operations
    (Capture.stable_marked.interpreter hlevel c.machine) c
  refine hops.runCell source '%' (fun directive argument => ?_) w h
  exact Capture.stable_marked.program hlevel _ ((noting directive argument).obeys_of_direct trivial)

/-- Run cells one after the other. -/
def runAll (w : Session) : List (Context × String) → Session
  | [] => w
  | (c, source) :: rest => runAll ((runAt 1 c source '%' noting).run w).2 rest

/-- Cells over the two namespaces that do not mention the global that holds the buffer. -/
def Discreet (cells : List (Context × String)) : Prop :=
  ∀ cell ∈ cells, (cell.1 = tapping ∨ cell.1 = aside) ∧
    ¬Capture.name.toList <:+: cell.2.toList

/-- Once the other namespace has got its buffer, the interpreter prints to that one only. -/
theorem runAll_sharing :
    runAll sharing [(tapping, "print('a')"), (aside, "print('b')")] =
      afterFirst aside "print('b')" (afterFirst tapping "print('a')" sharing) := by
  have hmarked := marked_runAt tapping "print('a')" marked_sharing
  rw [afterFirst_eq vacant_sharing] at hmarked
  have hvacant : Capture.Vacant aside 0 (afterFirst tapping "print('a')" sharing) :=
    vacant_of_isVacant rfl (by decide +kernel) hmarked
  rw [runAll, runAll, runAll, afterFirst_eq vacant_sharing, afterFirst_eq hvacant]

/-- The state after those two cells. -/
def shared : Session := afterFirst aside "print('b')" (afterFirst tapping "print('a')" sharing)

theorem marked_shared : shared.outside.store.Marked := by
  rw [shared, ← runAll_sharing, runAll, runAll, runAll]
  exact marked_runAt aside "print('b')" (marked_runAt tapping "print('a')" marked_sharing)

/-- The cell over the first namespace prints, but output goes to the buffer of the other one: the
cell puts out the text of its magic line and the value of its last line, and what it has printed is
put out over the other namespace. -/
theorem run_eq_unread_shared :
    Capture.Ready tapping 0 shared ∧
      (∀ e ∈ noted, e.binds tapping.globals Capture.name = false) ∧ ∃ s handled v v',
        s.outside.store.sink? 0 = some 14 ∧
        (runAt 1 tapping notedSource '%' noting).run shared =
          (.ok ("" ++ "hi\n" ++ "3", handled), v) ∧
        Delivery 1 tapping 0 3 s noted v ∧
        (Capture.drain ((Recursion.level 1).machine aside.machine) aside).run v =
          (.ok "x\n", v') := by
  obtain ⟨hopened, hbound, hbuffer, hcapturing, hbound', hbuffer', hsink'⟩ :
      1 < shared.capturing.size ∧
        shared.outside.store.binding? 0 Capture.name = some (some 3) ∧
        (shared.outside.store.output? 3).isSome = true ∧
        shared.capturing[1]? = some true ∧
        shared.outside.store.binding? 2 Capture.name = some (some 14) ∧
        shared.outside.store.output? 14 = some ⟨"b\n", 2⟩ ∧
        shared.outside.store.sink? 0 = some 14 := by decide +kernel
  have hholds : Capture.Holds tapping 0 3 shared :=
    ⟨rfl, Nat.lt_of_succ_lt hopened, hbound, hbuffer, marked_shared⟩
  have haside : Capture.Listening aside 0 14 "" shared := {
    machine := rfl
    opened := hopened
    bound := hbound'
    buffer := Option.isSome_iff_exists.mpr ⟨_, hbuffer'⟩
    marked := marked_shared
    capturing := hcapturing
    unread := ⟨_, hbuffer', by decide⟩ }
  have hbinds : ∀ scope, ∀ e ∈ noted, e.binds scope Capture.name = false := by
    simp [noted, Event.binds]
  obtain ⟨hown, hother, hbegun, hacts⟩ :
      (begun tapping shared).outside.store.unread 3 "" noted = "" ∧
        (begun tapping shared).outside.store.unread 14 "" noted = "x\n" ∧
        (begun tapping shared).outside.store.binding? 0 Capture.name = some (some 3) ∧
        actsNoted (begun tapping shared) = true := by decide +kernel
  obtain ⟨r, w₁, old, s, hstart, hdrain, hlistening, hspares, hsink, hcases⟩ :=
    run_eq_unread 1 (.held hholds) notedSource '%' noting
  rw [eq_begun hstart hdrain] at hlistening hspares hsink hcases
  obtain rfl : r = 3 :=
    Option.some.inj (Option.some.inj (hlistening.bound.symm.trans hbegun))
  rw [hholds.bound, if_pos Option.isSome_some] at hsink
  obtain ⟨handled, v, hact, hinline, hstore⟩ := exists_of_actsNoted hacts
  refine ⟨.held hholds, hbinds _, begun tapping shared, handled, ?_⟩
  rcases hcases with ⟨stop, v, herror, -⟩ | ⟨handled', shown, v', hact', -, -, hunread⟩
  · cases hact.symm.trans herror
  · cases hact.symm.trans hact'
    obtain ⟨v', hrun, hdelivery⟩ := hunread noted hstore (hbinds _)
    obtain ⟨-, v'', hdrained⟩ :=
      hdelivery.others aside 0 14 "" (by decide) (hspares _ _ _ _ (by decide) haside) (hbinds _)
    rw [hown, hinline] at hrun
    rw [hother] at hdrained
    exact ⟨v', v'', hsink.trans hsink', hrun, hdelivery, hdrained⟩

/-- It is not so that a cell always puts out what it prints, nor that a drain over another namespace
never gives it out. -/
theorem not_run_eq_printed :
    (¬∀ cells, Discreet cells →
      ((runAt 1 tapping "print('x')" '%' noting).run (runAll sharing cells)).1.toOption.map
        Prod.fst = some "x\n") ∧
    ¬∀ cells, Discreet cells →
      ((Capture.drain ((Recursion.level 1).machine aside.machine) aside).run
        ((runAt 1 tapping "print('x')" '%' noting).run (runAll sharing cells)).2).1.toOption =
          some "" := by
  have hcells : Discreet [(tapping, "print('a')"), (aside, "print('b')")] :=
    List.forall_mem_cons.mpr ⟨⟨.inl rfl, by decide +kernel⟩,
      List.forall_mem_singleton.mpr ⟨.inr rfl, by decide +kernel⟩⟩
  refine ⟨fun h => ?_, fun h => ?_⟩
  · have hout := h _ hcells
    rw [runAll_sharing] at hout
    revert hout
    decide +kernel
  · have hout := h _ hcells
    rw [runAll_sharing] at hout
    revert hout
    decide +kernel

end Cell

end ClosureBridge
