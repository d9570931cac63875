import ClosureBridge.Proofs.Capture.Drain

/-!
# Starting to capture output

Over a namespace that has a buffer a context captures output by remembering that it does; where the
output of the interpreter goes stays as it was. Over any other namespace a buffer is made, and the
output of the interpreter goes there from then on.

## Main definitions

* `Capture.Vacant`, `Capture.started`: the namespace of a context has no buffer, and the state after
  one has been put in place.
* `Capture.Ready`: the namespace of a context has a buffer, or none yet.

## Main statements

* `Capture.run_start`, `Capture.run_start_of_vacant`: what starting to capture does where there is a
  buffer and where there is none.
* `Capture.Ready.begins`: a cell starts with nothing unread in its buffer, and leaves what is unread
  in others.
-/

namespace ClosureBridge

open Script (Event Object OutputBuffer Store)

namespace Capture

variable {call : Script.Caller Bench} {c : Context} {k : Nat} {r : Ref} {w v : Session}

/-! ### Where there is a buffer -/

theorem run_getGlobal (c : Context) (w : Session) :
    (c.getGlobal (Script.interface call k) name).run w =
      (.ok (w.outside.store.binding? c.globals name).join, w) := by
  unfold Context.getGlobal
  rw [if_pos crosses_name]
  exact run_dictGet name

/-- What is captured goes on being captured. -/
theorem capturing_setIfInBounds {captured : Array Bool} {i : Nat}
    (h : captured[i]? = some true) (n : Nat) :
    (captured.setIfInBounds n true)[i]? = some true := by
  by_cases hn : n = i
  · subst hn
    exact Array.getElem?_setIfInBounds_self_of_lt (Array.getElem?_eq_some_iff.mp h).1
  · rw [Array.getElem?_setIfInBounds_ne hn, h]

/-- A context that captures output remembers it. -/
theorem run_start_of_install
    (hinstall : (install (Script.interface call k) c).run w = (.ok true, v))
    (hcapturing : w.capturing[c.number]? ≠ some true) :
    (start (Script.interface call k) c).run w =
      (.ok true, { v with capturing := v.capturing.setIfInBounds c.number true }) := by
  unfold start
  rw [Exec.run_bind_of_ok (Context.run_isCapturing_of_idle hcapturing),
    if_neg Bool.false_ne_true, Exec.run_bind_of_ok hinstall]
  rfl

variable (call) in
/-- Where there is a buffer, starting to capture changes nothing else. -/
theorem run_start (h : Holds c k r w) :
    ∃ v text, (start (Script.interface call k) c).run w = (.ok true, v) ∧
      v.outside = w.outside ∧ Listening c k r text v ∧ Spares r w v := by
  obtain ⟨b, text, hunread⟩ := h.exists_recent
  by_cases hcapturing : w.capturing[c.number]? = some true
  · refine ⟨w, text, ?_, rfl, ⟨h, hcapturing, b, hunread⟩, fun _ _ _ _ _ h' => h'⟩
    unfold start
    rw [Exec.run_bind_of_ok (Context.run_isCapturing_of_capturing hcapturing), if_pos rfl]
    rfl
  · have hinstall : (install (Script.interface call k) c).run w = (.ok true, w) := by
      unfold install
      rw [Exec.run_bind_of_ok (run_getGlobal c w), h.bound, Option.join_some,
        if_pos Option.isSome_some]
      rfl
    refine ⟨_, text, run_start_of_install hinstall hcapturing, rfl, ?_, ?_⟩
    · exact {
        toHolds := h.of_outside rfl (by simpa using h.opened)
        capturing := Array.getElem?_setIfInBounds_self_of_lt h.opened
        unread := ⟨b, hunread⟩ }
    · intro c' k' r' text' _ h'
      have hcapturing' := capturing_setIfInBounds h'.capturing c.number
      exact {
        toHolds := h'.toHolds.of_outside rfl (Array.getElem?_eq_some_iff.mp hcapturing').1
        capturing := hcapturing'
        unread := h'.unread }

variable (call) in
/-- A cell over a namespace with a buffer starts with nothing unread. -/
theorem Holds.begins (h : Holds c k r w) :
    ∃ w₁ old s, (start (Script.interface call k) c).run w = (.ok true, w₁) ∧
      (drain (Script.interface call k) c).run w₁ = (.ok old, s) ∧ Listening c k r "" s ∧
      (∀ m, s.outside.store.sink? m = w.outside.store.sink? m) ∧ Spares r w s := by
  obtain ⟨w₁, old, hstart, houtside, hlistening, hspares⟩ := run_start call h
  obtain ⟨s, hdrain, hs, hsink, hspares'⟩ := hlistening.exists_run_drain call
  exact ⟨w₁, old, s, hstart, hdrain, hs, fun m => by rw [hsink, houtside],
    hspares.trans hspares'⟩

/-! ### Where there is none -/

/-- What happens when a buffer is put in place. -/
def installing (scope : Ref) (k : Nat) (r : Ref) : List Event :=
  [.opened, .bound scope name (some r), .redirected k (some r), .made .none rfl]

theorem run_installOutput {scope : Ref} {names : Bindings (Option Ref)}
    (h : w.outside.store.heap.get (some scope) = .dict names) :
    ∃ v : Ref, ((Script.installOutput k (some scope)).run : Exec Session _).run w =
      (.ok (some v), w.happening (installing scope k w.outside.store.heap.objects.size)) := by
  have hopened : (w.happening [.opened]).outside.store.heap.get (some scope) = .dict names := by
    have hlt : scope < w.outside.store.heap.objects.size := by
      by_contra hge
      rw [Script.Heap.get, Array.getElem?_eq_none (Nat.le_of_not_lt hge)] at h
      cases h
    exact (Script.Heap.get_alloc_of_lt _ _ hlt).trans h
  have halloc : ReaderT.run (Store.alloc (.output {})) w.descriptors w.outside =
      (some w.outside.store.heap.objects.size, (w.happening [.opened]).outside) := rfl
  have hbind : ReaderT.run (Store.bind (some scope) name (some w.outside.store.heap.objects.size))
      w.descriptors (w.happening [.opened]).outside =
        (true, ((w.happening [.opened]).happening [.bound scope name
          (some w.outside.store.heap.objects.size)]).outside) := bind_eq hopened _ _
  unfold Script.installOutput
  rw [Quiet.run_run, Quiet.run_bind, halloc, Quiet.run_bind]
  dsimp only
  rw [hbind]
  exact ⟨_, rfl⟩

/-- The namespace of a context over a scripted interpreter has no buffer yet, and the mark of every
buffer is at a character. -/
structure Vacant (c : Context) (k : Nat) (w : Session) : Prop where
  machine : c.machine = .scripted k
  lt : k < w.outside.store.machines.size
  opened : c.number < w.capturing.size
  idle : w.capturing[c.number]? ≠ some true
  names : ∃ names, w.outside.store.heap.get (some c.globals) = .dict names ∧
    names.get? name = none
  marked : w.outside.store.Marked

theorem Vacant.binding?_eq_none (h : Vacant c k w) :
    w.outside.store.binding? c.globals name = none := by
  obtain ⟨names, hnames, hfree⟩ := h.names
  rw [Store.binding?, hnames]
  exact hfree

theorem exists_names_after {s : Store} {scope : Ref} {names : Bindings (Option Ref)}
    (h : s.heap.get (some scope) = .dict names) (es : List Event) :
    ∃ names', (s.after es).heap.get (some scope) = .dict names' := by
  have hobject : s.heap.objects[scope]? = some (.dict names) := by
    cases ho : s.heap.objects[scope]? with
    | none =>
      rw [Script.Heap.get, ho] at h
      cases h
    | some o =>
      rw [Script.Heap.get, ho] at h
      exact congrArg some h
  obtain ⟨o', ho', htype, -⟩ := (s.grows_after es).objects hobject
  rw [Script.Heap.get, ho']
  cases o' with
  | dict names' => exact ⟨names', rfl⟩
  | _ => simp [Object.typeName] at htype

/-- After a buffer has been put in place the namespace holds it and output goes to it. -/
theorem after_installing {s : Store} {scope : Ref} {names : Bindings (Option Ref)}
    (h : s.heap.get (some scope) = .dict names) {k : Nat} (hk : k < s.machines.size) :
    (s.after (installing scope k s.heap.objects.size)).binding? scope name =
        some (some s.heap.objects.size) ∧
      (s.after (installing scope k s.heap.objects.size)).output? s.heap.objects.size =
        some {} ∧
      (s.after (installing scope k s.heap.objects.size)).sink? k = some s.heap.objects.size := by
  obtain ⟨names', hnames'⟩ := exists_names_after h [.opened]
  have hbound := Store.binding?_bound hnames' name (some s.heap.objects.size)
  have hlt := (s.grows_after
    [.opened, .bound scope name (some s.heap.objects.size)]).lt_machines hk
  have hsink := Store.sink?_redirected hlt (some s.heap.objects.size)
  refine ⟨?_, ?_, ?_⟩
  · exact Store.binding?_after hbound (by simp [Event.binds])
  · simp only [installing, Store.after_cons, Store.after_nil, Store.output?_apply,
      Event.onOutput, if_true]
  · have hmade : ∀ e ∈ [Event.made .none rfl], e.redirects k = false := by
      simp [Event.redirects]
    exact (Store.sink?_after _ hmade).trans hsink

/-- The state in which a buffer has been put in place. -/
def installed (c : Context) (k : Nat) (w : Session) : Session :=
  let v := w.happening (upkeep c k w ++ [.ran k source])
  v.happening (installing c.globals k v.outside.store.heap.objects.size)

/-- The state in which a context captures output whose namespace had no buffer. -/
def started (c : Context) (k : Nat) (w : Session) : Session :=
  { installed c k w with capturing := w.capturing.setIfInBounds c.number true }

variable (call) in
/-- Where there is no buffer, starting to capture makes one. -/
theorem run_start_of_vacant (h : Vacant c k w) :
    (start (Script.interface call k) c).run w = (.ok true, started c k w) := by
  obtain ⟨names, hnames, -⟩ := h.names
  obtain ⟨names', hnames'⟩ := exists_names_after hnames (upkeep c k w ++ [.ran k source])
  have hbefore : (w.happening (upkeep c k w ++ [.ran k source])).outside.store.heap.get
      (some c.globals) = .dict names' := hnames'
  obtain ⟨v, hinstalled⟩ := @run_installOutput k _ _ _ hbefore
  have hsource : ((Script.interface call k).runString source .file c.globals).run
      (w.happening (upkeep c k w)) = (.ok (some v), installed c k w) := by
    change (Script.runString call k source .file (some c.globals)).run _ = _
    unfold Script.runString
    rw [Exec.run_bind_of_ok (Quiet.run_run _ _), if_pos (beq_self_eq_true _)]
    rw [Session.happening_append] at hinstalled
    rw [installed, Session.happening_append]
    exact hinstalled
  have hinstall : (install (Script.interface call k) c).run w =
      (.ok true, installed c k w) := by
    unfold install
    rw [Exec.run_bind_of_ok (run_getGlobal c w), h.binding?_eq_none, Option.join_none,
      if_neg (by simp), Exec.run_bind_of_ok (run_execute hnames crosses_source .file true hsource)]
    rfl
  exact run_start_of_install hinstall h.idle

/-- A context that has started to capture has a new buffer, which output goes to. -/
theorem exists_listening_started (h : Vacant c k w) :
    ∃ r, Listening c k r "" (started c k w) ∧ Spares r w (started c k w) ∧
      (started c k w).outside.store.sink? k = some r := by
  obtain ⟨names, hnames, -⟩ := h.names
  have hran : ∀ e ∈ upkeep c k w ++ [.ran k source], e.isUpkeep = true := by
    simpa [or_imp, forall_and, Event.isUpkeep] using isUpkeep_upkeep c k w
  obtain ⟨names', hnames'⟩ := exists_names_after hnames (upkeep c k w ++ [.ran k source])
  have hlt := (w.outside.store.grows_after (upkeep c k w ++ [.ran k source])).lt_machines h.lt
  obtain ⟨hbinding, houtput, hsink⟩ := after_installing hnames' hlt
  refine ⟨_, ?_, ?_, hsink⟩
  · exact {
      machine := h.machine
      opened := by simpa [started] using h.opened
      bound := hbinding
      buffer := Option.isSome_iff_exists.mpr ⟨_, houtput⟩
      marked := Store.marked_after (Store.marked_after h.marked _) _
      capturing := Array.getElem?_setIfInBounds_self_of_lt h.opened
      unread := ⟨_, houtput, rfl⟩ }
  · intro c' k' r' text _ h'
    have hglobals : c.globals ≠ c'.globals := by
      intro heq
      have hbound := h'.bound
      rw [← heq, h.binding?_eq_none] at hbound
      cases hbound
    have hran' := h'.after (v := w.happening (upkeep c k w ++ [.ran k source])) rfl
      (fun e he => binds_of_isUpkeep (hran e he) _) h'.capturing
    rw [unread_of_isUpkeep _ _ hran] at hran'
    have hstarted := @Listening.after _ _ _ _ (started c k w) _ hran' _ rfl
      (by simp [installing, Event.binds, hglobals]) (capturing_setIfInBounds h'.capturing _)
    simpa [installing, Store.unread, Event.marks, Event.textTo] using hstarted

/-! ### Either way -/

/-- The namespace of a context has a buffer, or none yet. -/
inductive Ready (c : Context) (k : Nat) (w : Session) : Prop where
  | held {r : Ref} (h : Holds c k r w)
  | vacant (h : Vacant c k w)

theorem Ready.machine (h : Ready c k w) : c.machine = .scripted k := by
  cases h with
  | held h => exact h.machine
  | vacant h => exact h.machine

variable (call) in
/-- A cell starts with nothing unread, and what is unread in other buffers stays. Output goes where
it went, or to the new buffer of a namespace that had none. -/
theorem Ready.begins (h : Ready c k w) :
    ∃ r w₁ old s, (start (Script.interface call k) c).run w = (.ok true, w₁) ∧
      (drain (Script.interface call k) c).run w₁ = (.ok old, s) ∧ Listening c k r "" s ∧
      Spares r w s ∧ s.outside.store.sink? k =
        if (w.outside.store.binding? c.globals name).isSome then w.outside.store.sink? k
        else some r := by
  cases h with
  | held h =>
    obtain ⟨w₁, old, s, hstart, hdrain, hs, hsink, hspares⟩ := h.begins call
    refine ⟨_, w₁, old, s, hstart, hdrain, hs, hspares, ?_⟩
    rw [h.bound, if_pos Option.isSome_some, hsink]
  | vacant h =>
    obtain ⟨r, hlistening, hspares, hsink⟩ := exists_listening_started h
    obtain ⟨s, hdrain, hs, hsink', hspares'⟩ := hlistening.exists_run_drain call
    refine ⟨r, _, "", s, run_start_of_vacant call h, hdrain, hs, hspares.trans hspares', ?_⟩
    rw [h.binding?_eq_none, if_neg (by simp), hsink', hsink]

end Capture

end ClosureBridge
