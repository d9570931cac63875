import ClosureBridge.Proofs.Cell.Interleaving
import ClosureBridge.Proofs.Context.Operation

/-!
# Accounts of captured output

Any number of contexts read the buffer of a namespace, in between whatever else writes to it. What
drains have given out is told by an account: the results of the drains, in order, beside all that
was written. As nothing but a drain moves the mark, the mark stands after what was given out, and
what was written is what was given out and what is unread.

## Main definitions

* `Capture.Calm`: events that leave the mark and the name of a buffer alone.
* `Capture.Account`: what the drains of a run give, and what is written in it.
* `Capture.Stands`: the mark of the buffer of a namespace is after a text and before another.
* `Cell.Accounted`: a cell adds its two drains to what is given out while it acts.

## Main statements

* `Context.Operation.exists_events`: what an operation does to the store is told by events.
* `Capture.Account.stands`: after a run the mark is after what was given out.
* `Capture.all_eq_given`: all output is what was given out and what the next drain gives.
-/

namespace ClosureBridge

open Script (Event OutputBuffer Store)

/-! ### Operations and events -/

/-- Every operation of a context keeps what is stable, with any number of levels of nesting. -/
theorem Session.Stable.performAt {P : Session → Prop} (hP : Session.Stable True P) (n : Nat)
    (c : Context) (op : Context.Operation) : Exec.Keeps P (op.performAt n c) := by
  have hlevel := hP.level n
  have hI := hP.interpreter hlevel c.machine
  have hops := hP.operations hI c
  unfold Context.Operation.performAt
  cases op with
  | execute source mode showErrors => exact .bind (hops.execute _ _ _) fun _ => .pure _
  | run source mode => exact .bind (hops.execute _ _ _) fun _ => .pure _
  | compiles source mode => exact .bind (hops.compiles _ _) fun _ => .pure _
  | runSimple source => exact .bind (Session.Lasting.runSimple hI _) fun _ => .pure _
  | setGlobal name value =>
    exact .bind (hP.steady.setGlobal hI.calm c _ _) fun _ => .pure _
  | getGlobal name => exact .bind (hops.getGlobal _) fun _ => .pure _
  | getAttr object name => exact .bind (hP.steady.getAttr hI.calm _ _) fun _ => .pure _
  | setAttr object name value =>
    exact .bind (hP.steady.setAttr hI.calm _ _ _) fun _ => .pure _
  | strOf object => exact .bind (hops.strOf _) fun _ => .pure _
  | reprOf object => exact .bind (hops.reprOf _) fun _ => .pure _
  | capture => exact .bind hops.start fun _ => .pure _
  | drain => exact .bind hops.drain fun _ => .pure _
  | all => exact .bind hops.all fun _ => .pure _
  | cell source marker handler =>
    refine .bind (hops.runCell source marker fun _ _ => ?_) fun _ => .pure _
    exact hP.program hlevel _ ((handler _ _).obeys_of_direct trivial)

/-- What an operation does to the store is told by events. -/
theorem Context.Operation.exists_events (n : Nat) (c : Context) (op : Context.Operation)
    (w : Session) :
    ∃ es, ((op.performAt n c).run w).2.outside.store = w.outside.store.after es :=
  ((Session.stable_advances w).performAt n c op w (.refl w)).events

namespace Capture

/-! ### Accounts -/

/-- Events that do not move the mark of a buffer nor bind its name again. -/
def Calm (g r : Ref) (es : List Event) : Prop :=
  ∀ e ∈ es, e.binds g name = false ∧ e.marks r = false

/-- What drains over a namespace give, in order, and what is written to its buffer, from one state
to another. Nothing but these drains moves the mark of the buffer, and its name is not bound
again. -/
inductive Account (g r : Ref) : List String → String → Session → Session → Prop where
  /-- Anything happens but a drain, told by its events. -/
  | aside {w v : Session} {es : List Event} (hes : v.outside.store = w.outside.store.after es)
    (hcalm : Calm g r es) : Account g r [] (w.outside.store.written r es) w v
  /-- A context over the namespace drains. -/
  | drained {w v : Session} {n : Nat} {d : Context} {k : Nat} {text : String}
    (hglobals : d.globals = g) (hmachine : d.machine = .scripted k)
    (hdrain : (drain ((Recursion.level n).machine d.machine) d).run w = (.ok text, v)) :
    Account g r [text] "" w v
  | append {u v w : Session} {given given' : List String} {written written' : String}
    (h : Account g r given written u v) (h' : Account g r given' written' v w) :
    Account g r (given ++ given') (written ++ written') u w

variable {g r : Ref} {c d : Context} {k : Nat} {w v s : Session}

/-- Where the store is as it was, nothing is given or written. -/
theorem Account.of_store (h : v.outside.store = w.outside.store) : Account g r [] "" w v :=
  @Account.aside g r w v [] h nofun

/-! ### Where the mark stands -/

/-- The mark of the buffer of a namespace stands after a text, which has been given out, and before
another. -/
structure Stands (g r : Ref) (given rest : String) (w : Session) : Prop where
  bound : w.outside.store.binding? g name = some (some r)
  buffer : w.outside.store.output? r = some (.cut given rest)
  marked : w.outside.store.Marked

namespace Stands

variable {given rest : String}

theorem holds (h : Stands g r given rest w) (hglobals : d.globals = g)
    (hmachine : d.machine = .scripted k) (hopened : d.number < w.capturing.size) :
    Holds d k r w where
  machine := hmachine
  opened := hopened
  bound := hglobals ▸ h.bound
  buffer := by rw [h.buffer, Option.isSome_some]
  marked := h.marked

/-- What is after the mark is unread. -/
theorem listening (h : Stands g r given rest w) (hglobals : d.globals = g)
    (hmachine : d.machine = .scripted k) (hcapturing : w.capturing[d.number]? = some true) :
    Listening d k r rest w where
  toHolds := h.holds hglobals hmachine (Array.getElem?_eq_some_iff.mp hcapturing).1
  capturing := hcapturing
  unread := ⟨_, h.buffer, OutputBuffer.recent?_cut given rest⟩

/-- Where nothing but drains moves the mark, it stands where it stood, and the text after it
grows. -/
theorem aside (h : Stands g r given rest w) {es : List Event}
    (hes : v.outside.store = w.outside.store.after es) (hcalm : Calm g r es) :
    Stands g r given (rest ++ w.outside.store.written r es) v where
  bound := hes ▸ Store.binding?_after h.bound fun e he => (hcalm e he).1
  buffer := by
    rw [hes, Store.output?_after_of_unmarked h.buffer fun e he => (hcalm e he).2,
      OutputBuffer.write_cut]
  marked := hes ▸ Store.marked_after h.marked es

theorem upkeep (h : Stands g r given rest w) {es : List Event}
    (hes : ∀ e ∈ es, e.isUpkeep = true) : Stands g r given rest (w.happening es) where
  bound := Store.binding?_after h.bound fun e he => binds_of_isUpkeep (hes e he) g
  buffer := output?_of_isUpkeep h.buffer hes
  marked := Store.marked_after h.marked es

theorem mark (h : Stands g r given rest w) :
    Stands g r (given ++ rest) "" (w.happening [.marked r]) where
  bound := Store.binding?_after h.bound (by simp [Event.binds])
  buffer := by
    rw [← OutputBuffer.moveMark_cut, Session.happening, Store.after_cons, Store.after_nil,
      Store.output?_apply, h.buffer, Event.onOutput, if_pos rfl, Option.map_some]
  marked := Store.marked_after h.marked _

/-- A drain gives what is after the mark and moves the mark behind it. -/
theorem drain (h : Stands g r given rest w) (n : Nat) (hglobals : d.globals = g)
    (hmachine : d.machine = .scripted k) (hcapturing : w.capturing[d.number]? = some true) :
    ∃ es, (Capture.drain ((Recursion.level n).machine d.machine) d).run w =
        (.ok rest, w.happening es) ∧ Stands g r (given ++ rest) "" (w.happening es) := by
  obtain ⟨es, fs, hupkeep, hrun⟩ :=
    run_drain (Recursion.level n).call (h.listening hglobals hmachine hcapturing)
  rw [List.forall_mem_append] at hupkeep
  have hmarked := ((h.upkeep hupkeep.1).mark).upkeep hupkeep.2
  rw [← Session.happening_append, ← Session.happening_append, List.singleton_append] at hmarked
  exact ⟨_, by rw [Cell.machine_eq n hmachine, hrun], hmarked⟩

/-- Reading all that was written gives what is before the mark and what is after it. -/
theorem all (h : Stands g r given rest w) (n : Nat) (hglobals : d.globals = g)
    (hmachine : d.machine = .scripted k) (hcapturing : w.capturing[d.number]? = some true) :
    ∃ es, (Capture.all ((Recursion.level n).machine d.machine) d).run w =
        (.ok (given ++ rest), w.happening es) ∧ Stands g r given rest (w.happening es) := by
  have hlistening := h.listening hglobals hmachine hcapturing
  obtain ⟨es, hes, hread⟩ := run_read_of (Recursion.level n).call hlistening.toHolds
    (by simp [Image.crosses]) ofText_value fun v hv => run_callMethod_value (hv.trans h.buffer)
  refine ⟨_, ?_, h.upkeep hes⟩
  rw [Cell.machine_eq n hmachine]
  unfold Capture.all
  rw [Exec.run_bind_of_ok (Context.run_isCapturing_of_capturing hcapturing), if_pos rfl]
  exact hread

end Stands

/-- A context that does not capture output is given nothing. -/
theorem run_drain_of_idle (I : Interpreter Bench.Outside)
    (h : w.capturing[d.number]? ≠ some true) : (drain I d).run w = (.ok "", w) := by
  unfold drain
  rw [Exec.run_bind_of_ok (Context.run_isCapturing_of_idle h), if_neg Bool.false_ne_true]
  rfl

/-- After a run the mark stands after what was given out in it: what was unread and what was written
has been given out or is unread. -/
theorem Account.stands {given : List String} {written : String} (h : Account g r given written w v)
    {old rest : String} (hw : Stands g r old rest w) :
    ∃ rest', Stands g r (old ++ String.join given) rest' v ∧
      rest ++ written = String.join given ++ rest' := by
  induction h generalizing old rest with
  | @aside w v es hes hcalm =>
    refine ⟨_, ?_, (String.empty_append).symm⟩
    rw [String.join_nil, String.append_empty]
    exact hw.aside hes hcalm
  | @drained w v n d k text hglobals hmachine hdrain =>
    rw [String.join_cons, String.join_nil, String.append_empty, String.append_empty]
    by_cases hcapturing : w.capturing[d.number]? = some true
    · obtain ⟨es, hrun, hstands⟩ := hw.drain n hglobals hmachine hcapturing
      rw [hrun] at hdrain
      cases hdrain
      exact ⟨"", hstands, String.append_empty.symm⟩
    · rw [run_drain_of_idle _ hcapturing] at hdrain
      cases hdrain
      exact ⟨rest, by rwa [String.append_empty], String.empty_append.symm⟩
  | @append u v w given given' written written' _ _ ih ih' =>
    obtain ⟨middle, hmiddle, hfirst⟩ := ih hw
    obtain ⟨rest', hstands, hsecond⟩ := ih' hmiddle
    rw [String.append_assoc, ← String.join_append] at hstands
    refine ⟨rest', hstands, ?_⟩
    rw [← String.append_assoc, hfirst, String.append_assoc, hsecond, ← String.append_assoc,
      ← String.join_append]

/-- Where a buffer has just been put in place, its mark is at the start. -/
theorem Vacant.exists_stands (h : Vacant c k w) :
    ∃ r, Stands c.globals r "" "" (started c k w) := by
  obtain ⟨names, hnames, -⟩ := h.names
  obtain ⟨names', hnames'⟩ := exists_names_after hnames (Capture.upkeep c k w ++ [.ran k source])
  have hlt := (w.outside.store.grows_after
    (Capture.upkeep c k w ++ [.ran k source])).lt_machines h.lt
  obtain ⟨hbinding, houtput, -⟩ := after_installing hnames' hlt
  exact ⟨_, hbinding, houtput, Store.marked_after (Store.marked_after h.marked _) _⟩

end Capture

/-! ### Cells -/

namespace Cell

open Capture (Account Stands)

/-- A cell reads what is unread, acts, and reads its output. It adds both texts to what is given out
while it acts, and the second one is the first part of what it puts out. -/
structure Accounted (n : Nat) (d : Context) (r : Ref) (rest : String) (v : Session)
    (source : String) (marker : Char) (handler : Handler) (s : Session) : Prop where
  begins : ∃ v₁, (Capture.start ((Recursion.level n).machine d.machine) d).run v = (.ok true, v₁) ∧
    (Capture.drain ((Recursion.level n).machine d.machine) d).run v₁ = (.ok rest, s)
  /-- A cell that is stopped as it acts reads nothing more. -/
  stops : ∀ {given written stop u},
    (actAt n d source marker handler).run s = (.error stop, u) →
    Account d.globals r given written s u →
      (runAt n d source marker handler).run v = (.error stop, u) ∧
        Account d.globals r (rest :: given) written v u
  ends : ∀ {given written handled shown u},
    (actAt n d source marker handler).run s = (.ok (handled, shown), u) →
    Account d.globals r given written s u →
      ∃ last u', (runAt n d source marker handler).run v =
          (.ok (last ++ inlineText handled ++ shown.getD "", handled), u') ∧
        Account d.globals r (rest :: (given ++ [last])) written v u'

/-- Every cell over a namespace with a buffer is accounted for. -/
theorem exists_accounted {d : Context} {k : Nat} {r : Ref} {given rest : String} {v : Session}
    (h : Stands d.globals r given rest v) (n : Nat) (hmachine : d.machine = .scripted k)
    (hopened : d.number < v.capturing.size) (source : String) (marker : Char) (handler : Handler) :
    ∃ s, Accounted n d r rest v source marker handler s := by
  obtain ⟨v₁, text, hstart, houtside, hlistening, -⟩ :=
    Capture.run_start (Recursion.level n).call (h.holds rfl hmachine hopened)
  rw [← machine_eq n hmachine] at hstart
  have hstands : Stands d.globals r given rest v₁ := by
    obtain ⟨hbound, hbuffer, hmarked⟩ := h
    rw [← houtside] at hbound hbuffer hmarked
    exact ⟨hbound, hbuffer, hmarked⟩
  obtain ⟨es, hdrain, hs⟩ := hstands.drain n rfl hmachine hlistening.capturing
  have hbegun : Account d.globals r [rest] "" v (Session.happening v₁ es) := by
    have hdrained : Account d.globals r [rest] "" v₁ _ := .drained rfl hmachine hdrain
    simpa using (Account.of_store (congrArg _ houtside)).append hdrained
  refine ⟨_, ⟨v₁, hstart, hdrain⟩, fun hact haccount => ?_, fun {_ _ _ _ u} hact haccount => ?_⟩
  · refine ⟨?_, by simpa using hbegun.append haccount⟩
    rw [runAt_of_act hstart hdrain, hact]
  · have hadvances := @advances_actAt n d source marker handler (Session.happening v₁ es)
    rw [hact] at hadvances
    have hcapturing : u.capturing[d.number]? = some true :=
      hadvances.capturing hlistening.capturing
    obtain ⟨last, hu, -⟩ := haccount.stands hs
    obtain ⟨fs, hlast, -⟩ := hu.drain n rfl hmachine hcapturing
    refine ⟨last, Session.happening u fs, ?_, ?_⟩
    · rw [runAt_of_act hstart hdrain, hact]
      dsimp only
      rw [hlast]
    · simpa using hbegun.append (haccount.append (.drained rfl hmachine hlast))

end Cell

namespace Capture

/-- **All output is what was given out and what is unread.** A context that captures output over a
namespace which had no buffer puts one in place. Whatever is then done over that namespace, by any
number of contexts, as long as nothing but drains moves the mark of the buffer and its name is not
bound again: what was written is what the drains have given out, in order, and the rest, and the
mark stands between the two. Every context over the namespace that captures output reads both
together, and its next drain gives the rest. The two drains of a cell count among the others; an
operation of any context that does not disturb the buffer gives nothing out. -/
theorem all_eq_given (n : Nat) {c : Context} {k : Nat} {w : Session} (h : Vacant c k w) :
    ∃ r s, (start ((Recursion.level n).machine c.machine) c).run w = (.ok true, s) ∧
      s.outside.store.binding? c.globals name = some (some r) ∧
      ∀ {given written v}, Account c.globals r given written s v →
        ∃ rest, written = String.join given ++ rest ∧
          v.outside.store.output? r = some (.cut (String.join given) rest) ∧
          (∀ m d l, d.globals = c.globals → d.machine = .scripted l →
            (v.capturing[d.number]? = some true →
              (∃ u, (all ((Recursion.level m).machine d.machine) d).run v =
                (.ok (String.join given ++ rest), u)) ∧
              ∃ u, (drain ((Recursion.level m).machine d.machine) d).run v = (.ok rest, u)) ∧
            (d.number < v.capturing.size → ∀ source marker handler,
              ∃ u, Cell.Accounted m d r rest v source marker handler u)) ∧
          ∀ m d (op : Context.Operation), ∃ es,
            ((op.performAt m d).run v).2.outside.store = v.outside.store.after es ∧
            (Calm c.globals r es → Account c.globals r given
              (written ++ v.outside.store.written r es) s ((op.performAt m d).run v).2) := by
  obtain ⟨r, hs⟩ := h.exists_stands
  refine ⟨r, started c k w, ?_, hs.bound, fun {given written v} haccount => ?_⟩
  · rw [Cell.machine_eq n h.machine, run_start_of_vacant _ h]
  obtain ⟨rest, hv, hwritten⟩ := haccount.stands hs
  rw [String.empty_append] at hv hwritten
  refine ⟨rest, hwritten, hv.buffer, fun m d l hglobals hmachine => ⟨fun hcapturing => ?_, ?_⟩,
    fun m d op => ?_⟩
  · obtain ⟨es, hall, -⟩ := hv.all m hglobals hmachine hcapturing
    obtain ⟨fs, hdrain, -⟩ := hv.drain m hglobals hmachine hcapturing
    exact ⟨⟨_, hall⟩, _, hdrain⟩
  · intro hopened source marker handler
    exact Cell.exists_accounted (hglobals ▸ hv) m hmachine hopened source marker handler
  · obtain ⟨es, hes⟩ := op.exists_events m d v
    refine ⟨es, hes, fun hcalm => ?_⟩
    simpa using haccount.append (.aside hes hcalm)

/-- Another context over the main namespace. -/
def beside : Context where
  number := 1
  machine := .scripted 0
  globals := 0

/-- What one context gives out is left out of what the next drain of another one gives. -/
theorem all_eq_given_beside :
    Vacant Cell.tapping 0 Cell.sharing ∧ ∃ r s v,
      (start ((Recursion.level 1).machine Cell.tapping.machine) Cell.tapping).run Cell.sharing =
        (.ok true, s) ∧
      Account 0 r ["é"] "éb" s v ∧
      (∃ u, (all ((Recursion.level 1).machine beside.machine) beside).run v = (.ok "éb", u)) ∧
      ∃ u, (drain ((Recursion.level 1).machine beside.machine) beside).run v = (.ok "b", u) := by
  obtain ⟨r, s, hstart, hbound, haccounts⟩ := all_eq_given 1 Cell.vacant_sharing
  have hstarted := run_start_of_vacant (Recursion.level 1).call Cell.vacant_sharing
  rw [← Cell.machine_eq (c := Cell.tapping) 1 rfl, hstart] at hstarted
  cases hstarted
  obtain ⟨r', hs⟩ := Cell.vacant_sharing.exists_stands
  cases hbound.symm.trans hs.bound
  -- one context writes and drains, then another one is opened to what is written next
  have hwrote (text : String) : Calm 0 r [.wrote r text] := by
    simp [Calm, Event.binds, Event.marks]
  obtain ⟨es, hdrain, hdrained⟩ :=
    (hs.aside rfl (hwrote "é") :
      Stands 0 r "" _ (Session.happening _ [.wrote r "é"])).drain (d := Cell.tapping) 1 rfl rfl rfl
  have hagain : Stands 0 r _ _ (Session.happening _ [.wrote r "b"]) :=
    hdrained.aside rfl (hwrote "b")
  obtain ⟨v, text, -, houtside, hv, -⟩ := run_start (Recursion.level 1).call
    (hagain.holds (d := beside) rfl rfl Nat.one_lt_two)
  have haccount : Account 0 r ["é"] "éb" (started Cell.tapping 0 Cell.sharing) v := by
    have haccounted := (((Account.aside rfl (hwrote "é")).append
      (.drained rfl rfl hdrain)).append (.aside rfl (hwrote "b"))).append
      (.of_store (congrArg _ houtside))
    simpa [Store.written, Event.textTo] using haccounted
  obtain ⟨rest, hwritten, -, hreads, -⟩ := haccounts haccount
  obtain rfl : "b" = rest := (String.append_right_inj "é").mp hwritten
  obtain ⟨hall, hnext⟩ := (hreads 1 beside 0 rfl rfl).1 hv.capturing
  exact ⟨Cell.vacant_sharing, _, _, v, hstart, haccount, hall, hnext⟩

end Capture

end ClosureBridge
