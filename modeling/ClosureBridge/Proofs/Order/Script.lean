import ClosureBridge.Proofs.Order.Computation
import ClosureBridge.Proofs.Session.Scripts

/-!
# Scripts hand out what is there

Whatever a script evaluates to has been made before, by the script, by what it calls or by what ran
earlier. So the items of a list that it makes are older than the list, and what it binds a name to
is there.

## Main statements

* `Script.Eval.Gives.eval`: evaluating an expression gives an object that is there.
* `Script.Eval.Gives.invoke`: so does calling an object, where entering the router does.
-/

namespace ClosureBridge

open Script

variable {n : Nat}

/-! ### Operations of the store -/

namespace Quiet.Gives

/-- An operation that goes on from the store. -/
theorem read_bind {α : Type} {Q : Nat → α → Prop} {f : Store → Quiet Bench.Outside α}
    (hf : ∀ (d : DescriptorPool) (o : Bench.Outside), o.store.Orderly → n ≤ o.store.extent →
      Leaves Q o (ReaderT.run (f o.store) d o)) : Gives n Q (Store.read >>= f) :=
  hf

theorem object (r : Option Ref) : Gives n Object.Within (Store.object r) :=
  of_reads (fun _ _ => rfl) fun _ _ ho _ => ho.closed.get r

theorem shown (r : Option Ref) : Gives n Untold (Store.shown r) :=
  of_reads (fun _ _ => rfl) fun _ _ _ _ => trivial

theorem str (r : Option Ref) : Gives n Untold (Store.str r) :=
  of_reads (fun _ _ => rfl) fun _ _ _ _ => trivial

theorem descriptors : Gives n Untold (readThe DescriptorPool : Quiet Bench.Outside _) :=
  of_reads (fun _ _ => rfl) fun _ _ _ _ => trivial

/-- The namespaces of an interpreter are there. -/
theorem machine (hn : 0 < n) (i : Nat) :
    Gives n (fun k m => m.main < k ∧ m.builtins < k) (Store.machine i) :=
  of_reads (fun _ _ => rfl) fun _ _ ho hle => ho.machine (Nat.lt_of_lt_of_le hn hle) i

theorem machine_untold (i : Nat) : Gives n Untold (Store.machine i) :=
  of_reads (fun _ _ => rfl) fun _ _ _ _ => trivial

/-- A new object. -/
theorem alloc {o : Object} (h : o.Within n) : Gives n RefWithin (Store.alloc o) := by
  intro d w hw hn
  have hextent := Store.extent_alloc w.store o
  exact ⟨hw.alloc (h.mono hn), Nat.le_trans (Nat.le_succ _) (Nat.le_of_eq hextent.symm), rfl,
    refWithin_some.mpr (Nat.lt_of_lt_of_eq (Nat.lt_succ_self _) hextent.symm)⟩

/-- An object without items, changed. -/
theorem set {o : Object} (h : o.Within n) (hitems : o.items? = none) (r : Ref) :
    Gives n Untold (Store.modifyHeap fun h => h.set r o) := by
  intro d w hw hn
  have hextent := Store.extent_set w.store r o
  exact ⟨hw.set (h.mono hn) hitems r, Nat.le_of_eq hextent.symm, rfl, trivial⟩

/-- An interpreter changed, its namespaces apart. -/
theorem modifyMachine (i : Nat) {f : Machine → Machine}
    (hf : ∀ m, (f m).main = m.main ∧ (f m).builtins = m.builtins) :
    Gives n Untold (Store.modifyMachine i f) :=
  fun _ _ hw _ => ⟨hw.modify i hf, Nat.le_refl _, rfl, trivial⟩

theorem raise (i : Nat) (e : Fault) : Gives n Untold (Store.raise i e) :=
  modifyMachine i fun _ => ⟨rfl, rfl⟩

theorem takeFault (i : Nat) : Gives n Untold (Store.takeFault i) :=
  bind (machine_untold i) fun _ _ _ _ =>
    bind (modifyMachine i fun _ => ⟨rfl, rfl⟩) fun _ _ _ _ => pure fun _ _ => trivial

/-- What a namespace binds a name to is there. -/
theorem find (scope : Option Ref) (name : String) :
    Gives n (fun k r => ∀ s ∈ r, RefWithin k s) (Store.find scope name) := by
  unfold Store.find
  refine bind (object scope) fun k _ o ho => ?_
  split
  · next names => exact pure fun k' hk' s hs => (ho name s hs).mono hk'
  · exact pure fun _ _ s hs => absurd hs (Option.not_mem_none s)

/-- A name is bound to what is there. -/
theorem dictionary (scope : Option Ref) (name : String) {value : Option Ref}
    (h : RefWithin n value) : Gives n Untold (Store.bind scope name value) := by
  unfold Store.bind
  refine bind (object scope) fun k hk o ho => ?_
  split
  · next r names =>
    have hnames : (Object.dict (names.insert name value)).Within k :=
      Bindings.All.insert ho name (h.mono hk)
    exact bind (set hnames rfl r) fun _ _ _ _ => pure fun _ _ => trivial
  · exact pure fun _ _ => trivial

theorem write (i : Nat) (text : String) : Gives n Untold (Store.write i text) := by
  unfold Store.write
  refine bind (machine_untold i) fun _ _ m _ => ?_
  split
  · exact modifyMachine i fun _ => ⟨rfl, rfl⟩
  · next r _ =>
    refine bind (object _) fun _ _ o ho => ?_
    split
    · next buffer => exact set (o := .output (buffer.write text)) trivial rfl r
    · exact pure fun _ _ => trivial

/-- A new interpreter has namespaces of its own. -/
theorem addMachine (textConstructor : Bool) :
    Gives n (fun k _ => 0 < k) (Store.addMachine textConstructor) := by
  intro d w hw hn
  have hempty {k : Nat} : (Object.dict ∅).Within k := Bindings.all_empty
  have hmain := hw.alloc (o := .dict ∅) hempty
  have hbuiltins := hmain.alloc (o := .dict ∅) hempty
  have hextent : Store.extent
      { w.store with heap := ((w.store.heap.alloc (.dict ∅)).2.alloc (.dict ∅)).2 } =
        w.store.extent + 2 := by
    simp [Store.extent, Heap.alloc]
  refine ⟨hbuiltins.push ?_ ?_, Nat.le_trans ?_ (Nat.le_of_eq hextent.symm), rfl,
    Nat.lt_of_lt_of_eq ?_ hextent.symm⟩
  · change w.store.extent < Store.extent _
    rw [hextent]
    omega
  · change (w.store.heap.alloc (.dict ∅)).2.objects.size < Store.extent _
    rw [hextent]
    simp [Store.extent, Heap.alloc]
  · omega
  · omega

end Quiet.Gives

/-! ### Evaluation -/

namespace Script.Operator

theorem within_of_ofWord {r : Except Overflow Int64} {o : Object} (h : ofWord r = .object o) :
    o.Within n := by
  cases r <;> cases h
  trivial

theorem within_of_negate {a o : Object} (h : negate a = .object o) : o.Within n := by
  unfold negate at h
  split at h
  · exact within_of_ofWord h
  · cases h
    trivial
  · cases h

theorem within_of_binary {op : BinaryOp} {a b o : Object} (h : binary op a b = .object o) :
    o.Within n := by
  unfold binary at h
  split at h
  case h_3 =>
    split at h
    · cases h
    · exact within_of_ofWord h
  all_goals first | exact within_of_ofWord h | (cases h; trivial) | cases h

end Script.Operator

namespace Script.Eval.Gives

/-- A new object. -/
theorem make {o : Object} (h : o.Within n) : Gives n RefWithin (Eval.make o) :=
  quiet (.alloc h)

/-- What an operator gives refers to nothing. -/
theorem ofOutcome {r : Operator.Outcome} (h : ∀ o, r = .object o → o.Within n) :
    Gives n RefWithin (Eval.ofOutcome r) := by
  cases r with
  | object o => exact make (h o rfl)
  | fault e => exact throw e
  | overflow e => exact ofExec (.panic _)

/-- What a name stands for is there. -/
theorem lookup {scope : Scope} (hscope : scope.locals.All (RefWithin n)) (name : String) :
    Gives n (fun k r => ∀ s ∈ r, RefWithin k s) (Script.lookup scope name) := by
  unfold Script.lookup
  split
  · next r hr =>
    exact pure fun k hk s hs => Option.some.inj hs ▸ (hscope name r hr).mono hk
  · refine bind (quiet (.find _ _)) fun k _ r hr => ?_
    split
    · exact pure fun k' hk' s hs => (hr s hs).mono hk'
    · split
      · next o ho =>
        have hwithin : o.Within k := by
          unfold constant? at ho
          split at ho <;> cases ho <;> trivial
        exact bind_pure (make hwithin) fun _ _ _ hr s hs => Option.some.inj hs ▸ hr
      · exact pure fun _ _ s hs => absurd hs (Option.not_mem_none s)

theorem printLine (i : Nat) (args : List (Option Ref)) :
    Gives n RefWithin (Script.printLine i args) :=
  bind (mapM_untold (fun _ => quiet (.str _)) args) fun _ _ _ _ =>
    bind (quiet (.write i _)) fun _ _ _ _ => bind (quiet (.write i _)) fun _ _ _ _ => make trivial

theorem length (arg : Option Ref) : Gives n RefWithin (Script.length arg) := by
  unfold Script.length
  refine bind (quiet (.object _)) fun _ _ o _ => ?_
  split
  · exact make trivial
  · split
    · exact make trivial
    · exact throw _

/-- The items of another object are older than the new list. -/
theorem listOf (arg : Option Ref) : Gives n RefWithin (Script.listOf arg) := by
  unfold Script.listOf
  refine bind (quiet (.object _)) fun k _ o ho => ?_
  split
  · next items hitems => exact make (o := .list items) (ho.items hitems)
  · exact throw _

theorem callMethod (target : Option Ref) (name : String) (args : List (Option Ref)) :
    Gives n RefWithin (Script.callMethod target name args) := by
  unfold Script.callMethod
  refine bind (quiet (.object _)) fun k _ o ho => ?_
  split
  · next r buffer =>
    have hstore {k : Nat} (b : OutputBuffer) :
        Gives k Untold (Eval.quiet (Store.modifyHeap fun h => h.set r (.output b))) :=
      quiet (.set (o := .output b) trivial rfl r)
    split
    · exact bind (quiet (.str _)) fun _ _ _ _ => bind (hstore _) fun _ _ _ _ => make trivial
    · exact make trivial
    · exact make trivial
    · split
      · exact make trivial
      · exact ofExec (.panic _)
    · exact bind (hstore _) fun _ _ _ _ => make trivial
    · exact throw _
  · exact throw _

end Script.Eval.Gives

/-- Calling an object with what is there gives what is there. -/
def Script.Caller.Gives (call : Caller Bench) : Prop :=
  ∀ {n : Nat} i f args, RefsWithin n args → Eval.Gives n RefWithin (call i f args)

namespace Script.Eval.Gives

variable {call : Caller Bench}

section

variable (hc : call.Gives)
include hc

theorem callEach (i : Nat) (f : Option Ref) {items : List (Option Ref)}
    (h : RefsWithin n items) : Gives n RefsWithin (Script.callEach call i f items) := by
  induction items with
  | nil => exact pure fun _ _ => refsWithin_nil
  | cons item rest ih =>
    obtain ⟨hitem, hrest⟩ := List.forall_mem_cons.mp h
    refine bind (hc i f _ (.cons hitem refsWithin_nil)) fun k hk r hr => ?_
    exact bind_pure ((ih hrest).mono hk) fun k' hk' rs hrs => .cons (hr.mono hk') hrs

theorem mapItems (i : Nat) (f items : Option Ref) :
    Gives n RefWithin (Script.mapItems call i f items) := by
  unfold Script.mapItems
  refine bind (quiet (.object _)) fun k _ o ho => ?_
  split
  · next items hitems =>
    exact bind (callEach hc i f (ho.items hitems)) fun _ _ rs hrs => make (o := .list rs) hrs
  · exact throw _

theorem builtin (i : Nat) (name : String) (args : List (Option Ref)) :
    Gives n RefWithin (Script.builtin call i name args) := by
  unfold Script.builtin
  split
  · exact printLine _ _
  · exact length _
  · exact throw _
  · exact mapItems hc _ _ _
  · exact throw _
  · exact listOf _
  · exact throw _
  · exact bind (quiet (.str _)) fun _ _ _ _ => make trivial
  · exact throw _
  · exact bind (quiet (.shown _)) fun _ _ _ _ => make trivial
  · exact throw _
  · exact throw _

end

mutual

/-- Evaluating an expression gives an object that is there. -/
theorem eval (hc : call.Gives) (i : Nat) {scope : Scope}
    (hscope : scope.locals.All (RefWithin n)) :
    ∀ e, Gives n RefWithin (Script.eval call i scope e)
  | .integer _ => make trivial
  | .float _ => make trivial
  | .text _ => make trivial
  | .name x => by
    unfold Script.eval
    refine bind (lookup hscope x) fun k _ r hr => ?_
    split
    · next s => exact pure fun k' hk' => (hr s rfl).mono hk'
    · exact throw _
  | .list items => bind (evalAll hc i hscope items) fun _ _ rs hrs => make (o := .list rs) hrs
  | .negate e => bind (eval hc i hscope e) fun _ _ _ _ =>
      bind (quiet (.object _)) fun _ _ _ _ => ofOutcome fun _ ho => Operator.within_of_negate ho
  | .binary _ a b => bind (eval hc i hscope a) fun _ hk _ _ =>
      bind ((eval hc i hscope b).mono hk) fun _ _ _ _ =>
        bind (quiet (.object _)) fun _ _ _ _ => bind (quiet (.object _)) fun _ _ _ _ =>
          ofOutcome fun _ ho => Operator.within_of_binary ho
  | .equal a b => bind (eval hc i hscope a) fun _ hk _ _ =>
      bind ((eval hc i hscope b).mono hk) fun _ _ _ _ =>
        bind (quiet (.shown _)) fun _ _ _ _ => bind (quiet (.shown _)) fun _ _ _ _ =>
          make trivial
  | .lambda _ _ => make trivial
  | .call callee args => by
    unfold Script.eval
    refine bind (evalAll hc i hscope args) fun k hk values hvalues => ?_
    split
    · refine bind ((lookup hscope _).mono hk) fun k' hk' f _ => ?_
      split
      · exact hc i _ values (hvalues.mono hk')
      · exact builtin hc i _ values
    · exact bind ((eval hc i hscope callee).mono hk) fun k' hk' _ _ =>
        hc i _ values (hvalues.mono hk')
  | .method receiver _ args => bind (eval hc i hscope receiver) fun _ hk _ _ =>
      bind ((evalAll hc i hscope args).mono hk) fun _ _ _ _ => callMethod _ _ _

theorem evalAll (hc : call.Gives) (i : Nat) {scope : Scope}
    (hscope : scope.locals.All (RefWithin n)) :
    ∀ es, Gives n RefsWithin (Script.evalAll call i scope es)
  | [] => pure fun _ _ => refsWithin_nil
  | e :: rest => bind (eval hc i hscope e) fun _ hk _ hr =>
      bind_pure ((evalAll hc i hscope rest).mono hk) fun _ hk' _ hrs => .cons (hr.mono hk') hrs

end

section

variable (hc : call.Gives)
include hc

theorem executeOne (i : Nat) (globals : Option Ref) (s : Statement) :
    Gives n Untold (Script.executeOne call i globals s) := by
  cases s with
  | assign name e =>
    exact bind (eval hc i Bindings.all_empty e) fun _ _ _ hr =>
      bind_pure (quiet (.dictionary _ _ hr)) fun _ _ _ _ => trivial
  | raise kind message => exact throw _
  | evaluate e => exact bind_pure (eval hc i Bindings.all_empty e) fun _ _ _ _ => trivial

theorem execute (i : Nat) (globals : Option Ref) (statements : List Statement) :
    Gives n RefWithin (Script.execute call i globals statements) := by
  induction statements with
  | nil => exact make trivial
  | cons s rest ih => exact bind (executeOne hc i globals s) fun _ hk _ _ => ih.mono hk

omit hc in
theorem readable {α : Type} (r : Except SyntaxFault α) :
    Gives n Untold (Script.readable r) := by
  cases r with
  | ok a => exact pure fun _ _ => trivial
  | error e => exact throw _

theorem runText (i : Nat) (globals : Option Ref) (mode : Mode) (text : String) :
    Gives n RefWithin (Script.runText call i globals mode text) := by
  unfold Script.runText
  split
  · exact bind (readable _) fun _ _ _ _ => eval hc i Bindings.all_empty _
  · exact bind (readable _) fun _ _ _ _ => execute hc i globals _

/-- **Calling an object gives an object that is there**, where the calls inside it do and entering
the router does. The tuple of the arguments is younger than the arguments. -/
theorem invoke {enter : Option Ref → Option Ref → Exec Session (Option Ref)}
    (he : ∀ {n} self args, Exec.Gives n RefWithin (enter self args)) :
    Caller.Gives (Script.invoke enter call) := by
  intro n i callable args hargs
  unfold Script.invoke
  refine bind (quiet (.object _)) fun k hk o ho => ?_
  split
  · refine bind (quiet .descriptors) fun k' hk' _ _ => ?_
    split
    · exact throw _
    · -- The arguments are there before the tuple that the router gets.
      have htuple : (Object.tuple args).Within k' := (hargs.mono hk).mono hk'
      refine bind (make htuple) fun _ _ tuple _ => bind (ofExec (he _ tuple)) fun _ _ r hr => ?_
      split
      · exact pure fun _ hk => hr.mono hk
      · exact bind (quiet (.takeFault _)) fun _ _ _ _ => throw _
  · next params body =>
    split
    · refine bind (quiet (.machine_untold _)) fun k' hk' _ _ => eval hc i ?_ body
      refine Bindings.all_ofList fun e he => ?_
      exact ((hargs e.2 (List.of_mem_zip he).2).mono hk).mono hk'
    · exact throw _
  · exact throw _

end

end Script.Eval.Gives

end ClosureBridge
