import ClosureBridge.Proofs.Capture.Drain
import ClosureBridge.Proofs.Interpreter.Literal

/-!
# Values that are read back

What shows a value is a source of the value: evaluated, it gives an object that is the same value,
where the names of the constants are not bound to something else. All that happens is that objects
are made, of which none is a namespace.

## Main definitions

* `Script.Event.makesValue`: an object is made that is no namespace.
* `Script.Builds`: an expression evaluates to an object that is a value.

## Main statements

* `Script.Datum.builds_expr`: the expression of a value evaluates to the value.
* `Script.repr_reads_back`: what shows a value is read back as the value.
-/

namespace ClosureBridge.Script

/-- An object is made that is no namespace. -/
def Event.makesValue : Event → Bool
  | made o _ => o.names?.isNone
  | _ => false

/-- A name that is not bound is not bound by making objects that are no namespaces. -/
theorem Store.binding?_after_of_makesValue {s : Store} {scope : Ref} {x : String}
    (h : s.binding? scope x = none) {es : List Event} (hes : ∀ e ∈ es, e.makesValue = true) :
    (s.after es).binding? scope x = none := by
  induction es generalizing s with
  | nil => exact h
  | cons e es ih =>
    obtain ⟨he, hes⟩ := List.forall_mem_cons.mp hes
    refine ih ?_ hes
    cases e with
    | made o ho =>
      have hnames : o.names? = none := Option.isNone_iff_eq_none.mp he
      rw [Event.apply, binding?, get_alloc]
      split
      · rw [hnames]
        rfl
      · exact h
    | _ => cases he

variable {call : Caller Bench} {k : Nat} {scope : Ref} {w : Session} {d : Datum}

/-- Making an object is one event. -/
theorem Eval.run_make {o : Object} (h : o.isBuffer = false) :
    (make o : Eval Bench _).run.run w =
      (.ok (.ok (some w.outside.store.heap.objects.size)), w.happening [.made o h]) :=
  rfl

/-- The object that is made is the last one. -/
theorem Store.getElem?_after_made (s : Store) {o : Object} (h : o.isBuffer = false) :
    (s.after [.made o h]).heap.objects[s.heap.objects.size]? = some o :=
  Array.getElem?_push_size

/-- An expression evaluates to an object that is a value, and all that happens is that objects are
made that are no namespaces. -/
def Builds (call : Caller Bench) (k : Nat) (scope : Ref) (w : Session) (e : Expr) (d : Datum) :
    Prop :=
  ∃ r es, (∀ e ∈ es, Event.makesValue e = true) ∧
    (eval call k ⟨some scope, ∅⟩ e).run.run w = (.ok (.ok (some r)), w.happening es) ∧
      (w.outside.store.after es).heap.Holds d r

/-- An expression that makes an object after others. -/
theorem Builds.of_make_after (o : Object) {e : Expr} {es : List Event}
    (hes : ∀ e ∈ es, Event.makesValue e = true) (ho : o.isBuffer = false) (hnames : o.names? = none)
    (heval : (eval call k ⟨some scope, ∅⟩ e).run.run w =
      (Eval.make o : Eval Bench _).run.run (w.happening es))
    (hd : ∀ {r : Ref}, ((w.outside.store.after es).after [.made o ho]).heap.objects[r]? = some o →
      (w.outside.store.after es).heap.objects.size = r →
        ((w.outside.store.after es).after [.made o ho]).heap.Holds d r) :
    Builds call k scope w e d := by
  refine ⟨(w.outside.store.after es).heap.objects.size, es ++ [.made o ho], ?_, ?_, ?_⟩
  · have hmade : Event.makesValue (.made o ho) = true := Option.isNone_iff_eq_none.mpr hnames
    exact List.forall_mem_append.mpr ⟨hes, List.forall_mem_singleton.mpr hmade⟩
  · rw [heval, Eval.run_make ho, Session.happening_append]
    rfl
  · rw [Store.after_append]
    exact hd (Store.getElem?_after_made _ ho) rfl

/-- An expression that makes one object. -/
theorem Builds.of_make (o : Object) {e : Expr} (ho : o.isBuffer = false) (hnames : o.names? = none)
    (heval : (eval call k ⟨some scope, ∅⟩ e).run.run w = (Eval.make o : Eval Bench _).run.run w)
    (hd : ∀ {t : Heap} {r : Ref}, t.objects[r]? = some o → t.Holds d r) :
    Builds call k scope w e d :=
  of_make_after o (List.forall_mem_nil _) ho hnames heval fun hr _ => hd hr

/-- A name that is not bound is the constant that it stands for. -/
theorem run_eval_constant {x : String} {o : Object} (hx : w.outside.store.binding? scope x = none)
    (ho : constant? x = some o) (hb : o.isBuffer = false) :
    (eval call k ⟨some scope, ∅⟩ (.name x)).run.run w = (Eval.make o : Eval Bench _).run.run w := by
  have hlookup : (lookup ⟨some scope, ∅⟩ x : Eval Bench _).run.run w =
      (.ok (.ok (some (some w.outside.store.heap.objects.size))), w.happening [.made o hb]) := by
    change (Eval.quiet (Store.find (some scope) x) >>= _ : Eval Bench _).run.run w = _
    rw [Eval.run_quiet_bind, Capture.find_eq, hx]
    dsimp only
    rw [ho]
    rfl
  unfold eval
  exact Eval.run_bind_of_ok hlookup

/-- The names of the constants are not bound. -/
def Store.Unbound (s : Store) (scope : Ref) : Prop :=
  ∀ x ∈ ["None", "True", "False"], s.binding? scope x = none

theorem Store.Unbound.after {s : Store} (h : s.Unbound scope) {es : List Event}
    (hes : ∀ e ∈ es, e.makesValue = true) : (s.after es).Unbound scope :=
  fun x hx => binding?_after_of_makesValue (h x hx) hes

/-- The negative of the negative of an integer is the integer. -/
theorem negate_negative {n : Int64} (hn : n ≠ Int64.minValue) :
    Operator.negate (.integer (Int64.ofInt (-n.toInt))) = .object (.integer n) := by
  have hlow := Word.lt_toInt hn
  have hhigh := n.toInt_lt
  unfold Word.bound at hlow
  have hnegative : (Int64.ofInt (-n.toInt)).toInt = -n.toInt :=
    Int64.toInt_ofInt_of_le (by omega) (by omega)
  rw [Operator.negate, Word.neg?, hnegative, Int.neg_neg, Word.checked, Word.ofInt?_toInt]
  rfl

/-- The expression of an integer evaluates to the integer. -/
theorem builds_integerExpr {n : Int64} (hn : n ≠ Int64.minValue) :
    Builds call k scope w (Datum.integerExpr n) (.integer n) := by
  unfold Datum.integerExpr
  split
  · generalize hm : Int64.ofInt (-n.toInt) = m
    have hback : Operator.negate (.integer m) = .object (.integer n) := hm ▸ negate_negative hn
    have hmake : (eval call k ⟨some scope, ∅⟩ (.integer m)).run.run w =
        (.ok (.ok (some w.outside.store.heap.objects.size)),
          w.happening [.made (.integer m) rfl]) := by
      unfold eval
      rfl
    have hobject := Heap.get_of_getElem?
      (w.outside.store.getElem?_after_made (o := .integer m) rfl)
    have hnegate (o : Object) (ho : o = .integer m) :
        (Eval.ofOutcome (Operator.negate o) : Eval Bench _) = Eval.make (.integer n) := by
      rw [ho, hback]
      rfl
    have hmade : Event.makesValue (.made (.integer m) rfl) = true := rfl
    refine .of_make_after (.integer n) (List.forall_mem_singleton.mpr hmade) rfl rfl ?_ fun h _ => h
    unfold eval
    rw [Eval.run_bind_of_ok hmake, Eval.run_quiet_bind]
    exact congrArg (fun e : Eval Bench _ => e.run.run _) (hnegate _ hobject)
  · exact .of_make (.integer n) rfl rfl (by unfold eval; rfl) id

mutual

/-- The expression of a value evaluates to the value. -/
theorem builds_expr : (d : Datum) → Int64.minValue ∉ d.integers → ∀ {w : Session},
    w.outside.store.Unbound scope → Builds call k scope w d.expr d
  | .none, _, _, hw => .of_make .none rfl rfl (run_eval_constant (hw "None" (by decide)) rfl rfl) id
  | .boolean true, _, _, hw =>
    .of_make (.boolean true) rfl rfl (run_eval_constant (hw "True" (by decide)) rfl rfl) id
  | .boolean false, _, _, hw =>
    .of_make (.boolean false) rfl rfl (run_eval_constant (hw "False" (by decide)) rfl rfl) id
  | .integer n, hn, _, _ => builds_integerExpr (by simpa [Datum.integers, eq_comm] using hn)
  | .text s, _, _, _ =>
    .of_make (.text s) rfl rfl (by rw [Datum.expr]; unfold eval; rfl) id
  | .list ds, hn, w, hw => by
    obtain ⟨items, es, hes, heval, hitems⟩ := builds_exprAll ds hn hw
    refine .of_make_after (.list items) hes rfl rfl ?_ fun hr hsize => ⟨items, hr, ?_⟩
    · rw [Datum.expr]
      unfold eval
      exact Eval.run_bind_of_ok heval
    · subst hsize
      exact Heap.holdsAll_of_grows (Store.grows_after _ _) ds hitems

/-- The expressions of values evaluate to the values. -/
theorem builds_exprAll : (ds : List Datum) → Int64.minValue ∉ Datum.integersAll ds →
    ∀ {w : Session}, w.outside.store.Unbound scope → ∃ items es,
      (∀ e ∈ es, Event.makesValue e = true) ∧
        (evalAll call k ⟨some scope, ∅⟩ (Datum.exprAll ds)).run.run w =
          (.ok (.ok items), w.happening es) ∧
        (w.outside.store.after es).heap.HoldsAll ds
          (w.outside.store.after es).heap.objects.size items
  | [], _, w, _ => ⟨[], [], nofun, by rw [Datum.exprAll]; rfl, rfl⟩
  | d :: ds, hn, w, hw => by
    rw [Datum.integersAll, List.mem_append, not_or] at hn
    obtain ⟨r, es, hes, heval, hd⟩ := builds_expr d hn.1 hw
    obtain ⟨items, fs, hfs, hevalAll, hds⟩ :=
      builds_exprAll ds hn.2 (w := w.happening es) (hw.after hes)
    have hgrown : ((w.outside.store.after es).after fs).heap.Holds d r :=
      Heap.holds_of_grows (Store.grows_after _ fs) d hd
    refine ⟨some r :: items, es ++ fs, ?_, ?_, ?_⟩
    · exact List.forall_mem_append.mpr ⟨hes, hfs⟩
    · rw [Datum.exprAll, Session.happening_append]
      unfold evalAll
      rw [Eval.run_bind_of_ok heval, Eval.run_bind_of_ok hevalAll]
      rfl
    · rw [Store.after_append]
      exact ⟨r, items, rfl, hgrown.lt_size, hgrown, hds⟩

end

/-- **What shows a value is read back as the value**, in every namespace that does not bind the
names of the constants. Evaluating it succeeds; it makes objects that are no namespaces, and does
nothing else. -/
theorem repr_reads_back {r : Ref} (hr : w.outside.store.heap.Holds d r)
    (hd : Int64.minValue ∉ d.integers)
    (hscope : ∀ x ∈ ["None", "True", "False"], w.outside.store.binding? scope x = none) :
    ∃ r' es, (∀ e ∈ es, Event.makesValue e = true) ∧
      (runText call k (some scope) .eval
        (w.outside.store.heap.repr w.descriptors (some r))).run.run w =
          (.ok (.ok (some r')), w.happening es) ∧
      (w.happening es).outside.store.heap.Holds d r ∧
      (w.happening es).outside.store.heap.Holds d r' := by
  obtain ⟨r', es, hes, heval, hread⟩ := @builds_expr call k scope d hd w hscope
  refine ⟨r', es, hes, ?_, Heap.holds_of_grows (Store.grows_after _ es) d hr, hread⟩
  rw [Heap.repr_of_holds hr]
  unfold runText
  rw [Datum.ofText_shown hd]
  exact heval

/-- A text with a quote, a backslash and a line feed in a list with an integer below zero and a list
of constants. -/
def Datum.nested : Datum :=
  .list [.text "it's \\\n", .integer (-5), .list [.none, .boolean true]]

/-- A namespace without names, and a list of lists. -/
def Session.nesting : Session :=
  { Trial.fresh with outside.store.heap.objects :=
      #[.dict ∅, .text "it's \\\n", .integer (-5), .none, .boolean true, .list [some 3, some 4],
        .list [some 1, some 2, some 5]] }

/-- A list of lists is read back. -/
theorem repr_reads_back_nested :
    Session.nesting.outside.store.heap.Holds Datum.nested 6 ∧
      Int64.minValue ∉ Datum.nested.integers ∧
      (∀ x ∈ ["None", "True", "False"], Session.nesting.outside.store.binding? 0 x = none) ∧
      ∃ r' w, (runText (Recursion.level 1).call 0 (some 0) .eval
          (Session.nesting.outside.store.heap.repr Session.nesting.descriptors (some 6))).run.run
            Session.nesting = (.ok (.ok (some r')), w) ∧
        w.outside.store.heap.Holds Datum.nested r' := by
  have hr : Session.nesting.outside.store.heap.Holds Datum.nested 6 :=
    ⟨_, rfl, 1, _, rfl, by decide, rfl, 2, _, rfl, by decide, rfl, 5, _, rfl, by decide,
      ⟨_, rfl, 3, _, rfl, by decide, rfl, 4, _, rfl, by decide, rfl, rfl⟩, rfl⟩
  have hd : Int64.minValue ∉ Datum.nested.integers := by decide
  have hscope : ∀ x ∈ ["None", "True", "False"],
      Session.nesting.outside.store.binding? 0 x = none := fun _ _ => rfl
  obtain ⟨r', es, -, hrun, -, hread⟩ := repr_reads_back hr hd hscope
  exact ⟨hr, hd, hscope, r', _, hrun, hread⟩

end ClosureBridge.Script
