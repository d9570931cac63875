import ClosureBridge.Proofs.Capture.Drain
import ClosureBridge.Proofs.Dispatch.Function
import ClosureBridge.Proofs.Interpreter.Reading
import ClosureBridge.Proofs.Lambda.Registered
import Mathlib.Data.List.Forall2

/-!
# Mapping a lambda over a list

The source `list(map(h, x))` calls what `h` stands for with each item of what `x` stands for. Over a
lambda that is a function this lists what the function gives, or fails at the first item for which
a call fails, and calls nothing after that.

## Main definitions

* `Session.Yields`: an object is what comes of calling a function with an item.
* `Session.Mappable`: what the source of a mapping finds in a namespace.

## Main statements

* `Session.Serves.run_callEach`: a callable is called with each item.
* `Session.Serves.run_callEach_of_error`: until a call fails.
* `Session.mapping_follows_function`: the source of a mapping gives what the function gives.
-/

namespace ClosureBridge

open Script (Eval Event Fault Heap Object Store)

namespace Script

variable {call : Caller Bench} {k : Nat} {w w' : Session} {scope : Ref} {f : Option Ref}

/-! ### Calling an object with each item -/

theorem callEach_append (call : Caller Bench) (k : Nat) (f : Option Ref)
    (items more : List (Option Ref)) :
    callEach call k f (items ++ more) = do
      let rs ← callEach call k f items
      let rs' ← callEach call k f more
      return rs ++ rs' := by
  induction items with
  | nil => simp [callEach]
  | cons item rest ih => simp [callEach, ih]

/-- What gives a result gives one at each step. -/
theorem Eval.exists_of_run_bind {α β : Type} {m : Eval Bench α} {g : α → Eval Bench β} {b : β}
    (h : (m >>= g).run.run w = (.ok (.ok b), w')) :
    ∃ a v, m.run.run w = (.ok (.ok a), v) ∧ (g a).run.run v = (.ok (.ok b), w') := by
  have hbind : (m >>= g).run.run w = (m.run >>= ExceptT.bindCont g).run w := rfl
  rw [hbind, Exec.run_bind] at h
  rcases hm : m.run.run w with ⟨_ | _ | a, v⟩
  · rw [hm] at h
    cases h
  · rw [hm] at h
    cases h
  · rw [hm] at h
    exact ⟨a, v, rfl, h⟩

/-- Where every call gives an object, both ways to map an object over a list give the same. -/
theorem run_mapObjects_of_callEach {r : Recursion} {items refs : List (Option Ref)}
    (h : (callEach r.call k f items).run.run w = (.ok (.ok refs), w')) :
    (Perform.mapObjects r k f items).run w = (.ok refs, w') := by
  induction items generalizing w refs with
  | nil =>
    cases h
    rfl
  | cons item rest ih =>
    obtain ⟨r₁, v, hcall, hrest⟩ := Eval.exists_of_run_bind h
    obtain ⟨rs, v', heach, hpure⟩ := Eval.exists_of_run_bind hrest
    cases hpure
    have hone : (callObject r.call k f [item]).run w = (.ok r₁, v) := Exec.run_bind_of_ok hcall
    unfold Perform.mapObjects
    rw [Exec.run_bind_of_ok hone]
    exact Exec.run_bind_of_ok (ih heach)

/-! ### Names that are not bound -/

/-- A name that is bound does not matter to another. -/
theorem Store.binding?_bound_of_ne {s : Store} {scope scope' : Ref} {name name' : String}
    {value : Option Ref} (h : name' ≠ name) :
    ((Event.bound scope' name' value).apply s).binding? scope name = s.binding? scope name := by
  rw [binding?, Event.apply, get_changing s scope' rfl, binding?]
  split
  · next hscope =>
    rw [hscope]
    cases s.heap.get (some scope') with
    | dict names =>
      exact Bindings.get?_insert_of_ne _ h.symm _
    | _ => rfl
  · rfl

theorem run_lookup_unbound {x : String} (h : w.outside.store.binding? scope x = none)
    (hx : constant? x = none) :
    (lookup ⟨some scope, ∅⟩ x : Eval Bench _).run.run w = (.ok (.ok none), w) := by
  change (Eval.quiet (Store.find (some scope) x) >>= _ : Eval Bench _).run.run w = _
  rw [Eval.run_quiet_bind, Capture.find_eq, h]
  dsimp only
  rw [hx]
  rfl

theorem run_eval_name {x : String} {v : Option Ref}
    (h : w.outside.store.binding? scope x = some v) :
    (eval call k ⟨some scope, ∅⟩ (.name x)).run.run w = (.ok (.ok v), w) := by
  unfold eval
  exact Exec.run_bind_of_ok (Capture.run_lookup h)

/-- A call of a name that is not bound is a call of the built-in function of that name. -/
theorem run_eval_builtin {x : String} {args : List Expr} {values : List (Option Ref)}
    (hargs : (evalAll call k ⟨some scope, ∅⟩ args).run.run w = (.ok (.ok values), w'))
    (h : w'.outside.store.binding? scope x = none) (hx : constant? x = none) :
    (eval call k ⟨some scope, ∅⟩ (.call (.name x) args)).run.run w =
      (builtin call k x values).run.run w' := by
  unfold eval
  rw [Eval.run_bind_of_ok hargs]
  exact Eval.run_bind_of_ok (run_lookup_unbound h hx)

/-- The arguments of `map` are what the names stand for, and the items of the second are given to
the first. -/
theorem run_eval_map {h x : String} {xs : Ref} {items : List (Option Ref)}
    (hh : w.outside.store.binding? scope h = some f)
    (hx : w.outside.store.binding? scope x = some (some xs))
    (hitems : w.outside.store.heap.get (some xs) = .list items)
    (hmap : w.outside.store.binding? scope "map" = none) :
    (eval call k ⟨some scope, ∅⟩ (.call (.name "map") [.name h, .name x])).run.run w =
      (callEach call k f items >>= fun refs => Eval.make (.list refs)).run.run w := by
  have hargs : (evalAll call k ⟨some scope, ∅⟩ [.name h, .name x]).run.run w =
      (.ok (.ok [f, some xs]), w) := by
    unfold evalAll
    rw [Eval.run_bind_of_ok (run_eval_name hh)]
    unfold evalAll
    rw [bind_assoc, Eval.run_bind_of_ok (run_eval_name hx)]
    rfl
  have hlist : (ReaderT.run (Store.object (some xs)) w.descriptors w.outside).1 = .list items :=
    hitems
  rw [run_eval_builtin hargs hmap rfl]
  change (mapItems call k f (some xs)).run.run w = _
  unfold mapItems
  rw [Eval.run_quiet_bind, hlist]
  rfl

/-- The results of a mapping are listed. -/
theorem run_eval_mapping {h x : String} {refs : List (Option Ref)}
    (hmap : (eval call k ⟨some scope, ∅⟩ (.call (.name "map") [.name h, .name x])).run.run w =
      (.ok (.ok (some w'.outside.store.heap.objects.size)), w'.making (.list refs)))
    (hlist : w'.outside.store.binding? scope "list" = none) :
    (eval call k ⟨some scope, ∅⟩ (mappingExpr h x)).run.run w =
      (.ok (.ok (some (w'.outside.store.heap.objects.size + 1))),
        (w'.making (.list refs)).making (.list refs)) := by
  have hargs : (evalAll call k ⟨some scope, ∅⟩
      [.call (.name "map") [.name h, .name x]]).run.run w =
        (.ok (.ok [some w'.outside.store.heap.objects.size]), w'.making (.list refs)) := by
    unfold evalAll
    exact Eval.run_bind_of_ok hmap
  have hfree : (w'.making (.list refs)).outside.store.binding? scope "list" = none := by
    change ((w'.outside.store.heap.alloc (.list refs)).2.get (some scope)).names?.bind _ = none
    rw [Store.get_alloc]
    split
    · rfl
    · exact hlist
  have hget : (ReaderT.run (Store.object (some w'.outside.store.heap.objects.size))
      w'.descriptors (w'.making (.list refs)).outside).1 = .list refs := Heap.get_alloc_self _ _
  have hsize : (w'.making (.list refs)).outside.store.heap.objects.size =
    w'.outside.store.heap.objects.size + 1 := Array.size_push _
  unfold mappingExpr
  rw [run_eval_builtin hargs hfree rfl]
  change (listOf (some w'.outside.store.heap.objects.size)).run.run _ = _
  unfold listOf
  have hitems : (ReaderT.run (Store.object (some w'.outside.store.heap.objects.size))
      w'.descriptors (w'.making (.list refs)).outside).1.items? = some refs := by
    rw [hget]
    rfl
  rw [Eval.run_quiet_bind, ← hsize]
  split
  · next items h =>
    obtain rfl : items = refs := Option.some.inj (h.symm.trans hitems)
    rfl
  · next h => cases h.symm.trans hitems

end Script

namespace Session

variable {w : Session} {l : Lambda} {k : Nat} {f : Arguments → Except Payload HostValue}
  {items : List (Option Ref)}

open Dispatch (outcome)

/-- The names of a namespace stay as they are. -/
theorem Undisturbed.binding?_eq {w' : Session} (hw : Undisturbed w w') {scope : Ref} {x : String}
    {v : Option Ref} (hx : w.outside.store.binding? scope x = some v) (y : String) :
    w'.outside.store.binding? scope y = w.outside.store.binding? scope y := by
  obtain ⟨names, hnames⟩ := Capture.exists_names_of_binding? hx
  have hscope : w.outside.store.heap.objects[scope]? = some (.dict names) := by
    cases ho : w.outside.store.heap.objects[scope]? with
    | none =>
      rw [Heap.get, ho] at hnames
      cases hnames
    | some o =>
      rw [Heap.get, ho] at hnames
      exact congrArg some hnames
  rw [Store.binding?, Store.binding?, Heap.get, Heap.get, hw.objects hscope, hscope]

/-- An object that is what comes of calling a function with an item. -/
def Yields (w : Session) (shape : Shape) (f : Arguments → Except Payload HostValue) (h : Heap)
    (item r : Option Ref) : Prop :=
  ∃ v, outcome w shape f [item] = .ok v ∧ h.IsBuilt v r

/-- An integer that is given is an object that holds it. -/
theorem Yields.exists_integer {shape : Shape} {h : Heap} {item r : Option Ref} {n : Int64}
    (hr : Yields w shape f h item r) (hn : outcome w shape f [item] = .ok (.long n)) :
    ∃ ref : Ref, r = some ref ∧ h.objects[ref]? = some (.integer n) := by
  obtain ⟨v, hv, hbuilt⟩ := hr
  obtain rfl : v = .long n := Except.ok.inj (hv.symm.trans hn)
  cases hbuilt with
  | made ho href =>
    cases ho
    exact ⟨_, rfl, href⟩

theorem Runs.later {w' : Session} {item : Option Ref} (h : Runs w l f [item])
    (hlive : w.outside.store.heap.Live item) (hw : w.outside.store.Grows w'.outside.store) :
    Runs w' l f [item] := by
  intro arguments ha
  rw [Dispatch.accepted_of_grows hlive hw] at ha
  exact h arguments ha

/-- What comes of calling a function is the same later on. -/
theorem yields_of_grows {w' : Session} {shape : Shape} {h : Heap} {refs : List (Option Ref)}
    (hlive : ∀ item ∈ items, w.outside.store.heap.Live item)
    (hw : w.outside.store.Grows w'.outside.store)
    (hrefs : List.Forall₂ (Yields w' shape f h) items refs) :
    List.Forall₂ (Yields w shape f h) items refs := by
  have houtcome : ∀ item ∈ items, outcome w' shape f [item] = outcome w shape f [item] :=
    fun item hitem => Dispatch.outcome_of_grows (hlive item hitem) hw shape f
  refine ((List.forall₂_and_left _ _).mpr ⟨houtcome, hrefs⟩).imp ?_
  rintro item r ⟨heq, v, hv, hr⟩
  exact ⟨v, heq.symm.trans hv, hr⟩

namespace Serves

/-- Where no call fails, every item is called with, in order. -/
theorem run_callEach (h : Serves w l k) (hlive : ∀ item ∈ items, w.outside.store.heap.Live item)
    (hf : ∀ item ∈ items, Runs w l f [item])
    (hok : ∀ item ∈ items, ∃ v, outcome w l.shape f [item] = .ok v) (n : Nat) :
    ∃ refs w', Undisturbed w w' ∧ w'.stats.calls = w.stats.calls + .ofNat items.length ∧
      List.Forall₂ (Yields w l.shape f w'.outside.store.heap) items refs ∧
      (Script.callEach (Recursion.level (n + 2)).call k (some l.callable) items).run.run w =
        (.ok (.ok refs), w') := by
  induction items generalizing w with
  | nil => exact ⟨[], w, .refl w, by simp, .nil, rfl⟩
  | cons item rest ih =>
    obtain ⟨v, hv⟩ := hok item List.mem_cons_self
    obtain ⟨w₁, hw₁, hcalls₁, hone⟩ := h.call_function (hf item List.mem_cons_self) n
    rw [hv] at hone
    obtain ⟨r, hr, hrun⟩ := hone
    have hlater : ∀ item ∈ rest, w.outside.store.heap.Live item := fun item' hitem' =>
      hlive item' (List.mem_cons_of_mem item hitem')
    obtain ⟨refs, w', hw', hcalls, hrefs, heach⟩ := ih (h.undisturbed hw₁)
      (fun item' hitem' => (hlater item' hitem').grows hw₁.grows)
      (fun item' hitem' => (hf item' (List.mem_cons_of_mem item hitem')).later
        (hlater item' hitem') hw₁.grows)
      (fun item' hitem' => by
        rw [Dispatch.outcome_of_grows (hlater item' hitem') hw₁.grows]
        exact hok item' (List.mem_cons_of_mem item hitem'))
    refine ⟨some r :: refs, w', hw₁.trans hw', ?_, .cons ⟨v, hv, hr.grows hw'.grows⟩ ?_, ?_⟩
    · rw [hcalls, hcalls₁, List.length_cons, Nat.add_comm, UInt64.ofNat_add, ← UInt64.add_assoc]
      rfl
    · exact yields_of_grows hlater hw₁.grows hrefs
    · unfold Script.callEach
      rw [Eval.run_bind_of_ok hrun]
      exact Eval.run_bind_of_ok heach

/-- Items up to the first for which a call fails are called with; later ones are not. -/
theorem run_callEach_of_error (h : Serves w l k) {before later : List (Option Ref)}
    {item : Option Ref} {e : Fault}
    (hlive : ∀ called ∈ before ++ [item], w.outside.store.heap.Live called)
    (hf : ∀ called ∈ before ++ [item], Runs w l f [called])
    (hok : ∀ called ∈ before, ∃ v, outcome w l.shape f [called] = .ok v)
    (he : outcome w l.shape f [item] = .error e) (n : Nat) :
    ∃ w', Undisturbed w w' ∧ w'.stats.calls = w.stats.calls + .ofNat (before.length + 1) ∧
      (Script.callEach (Recursion.level (n + 2)).call k (some l.callable)
        (before ++ item :: later)).run.run w = (.ok (.error e), w') := by
  have hitem : item ∈ before ++ [item] := List.mem_append_right before List.mem_cons_self
  obtain ⟨refs, v, hv, hcalls, -, heach⟩ := h.run_callEach
    (fun called hc => hlive called (List.mem_append_left _ hc))
    (fun called hc => hf called (List.mem_append_left _ hc)) hok n
  obtain ⟨w', hw', hcalls', hone⟩ := (h.undisturbed hv).call_function
    ((hf item hitem).later (hlive item hitem) hv.grows) n
  rw [Dispatch.outcome_of_grows (hlive item hitem) hv.grows, he] at hone
  refine ⟨w', hv.trans hw', ?_, ?_⟩
  · rw [hcalls', hcalls, UInt64.ofNat_add, ← UInt64.add_assoc]
    rfl
  · have hrest : (Script.callEach (Recursion.level (n + 2)).call k (some l.callable)
        (item :: later)).run.run v = (.ok (.error e), w') := by
      unfold Script.callEach
      exact Eval.run_bind_of_error hone
    rw [Script.callEach_append, Eval.run_bind_of_ok heach]
    exact Eval.run_bind_of_error hrest

end Serves

/-- What the source of a mapping finds in a namespace: the callable of a lambda, a list, and the
built-in functions. -/
structure Mappable (w : Session) (l : Lambda) (k : Nat) (scope : Ref) (h x : String)
    (items : List (Option Ref)) : Prop where
  serves : Serves w l k
  callable : w.outside.store.binding? scope h = some (some l.callable)
  list : ∃ xs, w.outside.store.binding? scope x = some (some xs) ∧
    w.outside.store.heap.objects[xs]? = some (.list items)
  live : ∀ item ∈ items, w.outside.store.heap.Live item
  mapUnbound : w.outside.store.binding? scope "map" = none
  listUnbound : w.outside.store.binding? scope "list" = none

namespace Mappable

variable {scope : Ref} {h x : String}

/-- Events that bind none of the names do not matter. -/
theorem happening (hm : Mappable w l k scope h x items) {es : List Event}
    (hes : ∀ y ∈ [h, x, "map", "list"],
      (w.happening es).outside.store.binding? scope y = w.outside.store.binding? scope y) :
    Mappable (w.happening es) l k scope h x items := by
  have hgrows : w.outside.store.Grows (w.happening es).outside.store :=
    Store.Leads.grows ⟨es, rfl⟩
  simp only [List.forall_mem_cons] at hes
  obtain ⟨hh, hx, hmap, hlist, -⟩ := hes
  obtain ⟨xs, hxs, hitems⟩ := hm.list
  exact {
    serves := hm.serves.reaches (.single (.outside hgrows)) rfl
    callable := hh.trans hm.callable
    list := ⟨xs, hx.trans hxs, hgrows.fixed hitems rfl⟩
    live := fun item hitem => (hm.live item hitem).grows hgrows
    mapUnbound := hmap.trans hm.mapUnbound
    listUnbound := hlist.trans hm.listUnbound }

/-- The built-in names are bound where none of the names is. -/
theorem upkeep {c : Context} (hm : Mappable w l k c.globals h x items) :
    Mappable (w.happening (Capture.upkeep c k w)) l k c.globals h x items := by
  refine hm.happening fun y hy => ?_
  unfold Capture.upkeep
  split
  · next hfree =>
    refine Script.Store.binding?_bound_of_ne ?_
    obtain ⟨xs, hxs, -⟩ := hm.list
    rintro rfl
    simp only [List.mem_cons, List.not_mem_nil, or_false] at hy
    rcases hy with hy | hy | hy | hy
    · rw [hy, hm.callable] at hfree
      cases hfree
    · rw [hy, hxs] at hfree
      cases hfree
    · exact absurd hy (by decide)
    · exact absurd hy (by decide)
  · rfl

theorem ran (hm : Mappable w l k scope h x items) (source : String) :
    Mappable (w.happening [.ran k source]) l k scope h x items :=
  hm.happening fun _ _ => rfl

/-- Where no call fails, the evaluation lists what the function gives. -/
theorem run_runText (hm : Mappable w l k scope h x items) (hh : Script.isName h = true)
    (hx : Script.isName x = true) (hf : ∀ item ∈ items, Runs w l f [item])
    (hok : ∀ item ∈ items, ∃ v, outcome w l.shape f [item] = .ok v) (n : Nat) :
    ∃ (r : Ref) (refs : List (Option Ref)) (w' : Session),
      (Script.runText (Recursion.level (n + 2)).call k (some scope) .eval
        (Script.mapping h x)).run.run w = (.ok (.ok (some r)), w') ∧
      w'.outside.store.heap.objects[r]? = some (.list refs) ∧
      List.Forall₂ (Yields w l.shape f w'.outside.store.heap) items refs ∧
      w'.stats.calls = w.stats.calls + .ofNat items.length := by
  obtain ⟨xs, hxs, hitems⟩ := hm.list
  obtain ⟨refs, v, hv, hcalls, hrefs, heach⟩ := hm.serves.run_callEach hm.live hf hok n
  have hmap : (Script.eval (Recursion.level (n + 2)).call k ⟨some scope, ∅⟩ _).run.run w = _ :=
    Script.run_eval_map hm.callable hxs (Heap.get_of_getElem? hitems) hm.mapUnbound
  rw [Eval.run_bind_of_ok heach] at hmap
  have hfree : v.outside.store.binding? scope "list" = none :=
    (hv.binding?_eq hm.callable "list").trans hm.listUnbound
  have heval := Script.run_eval_mapping hmap hfree
  have hmade := ((Undisturbed.making v (.list refs)).trans (.making _ (.list refs))).grows
  have hlast : ((v.making (.list refs)).making (.list refs)).outside.store.heap.objects[
      (v.making (.list refs)).outside.store.heap.objects.size]? = some (.list refs) :=
    Array.getElem?_push_size
  have hsize : (v.making (.list refs)).outside.store.heap.objects.size =
    v.outside.store.heap.objects.size + 1 := Array.size_push _
  rw [hsize] at hlast
  refine ⟨v.outside.store.heap.objects.size + 1, refs,
    (v.making (.list refs)).making (.list refs), ?_, hlast, ?_, hcalls⟩
  · unfold Script.runText
    rw [Script.Expr.ofText_mapping hh hx]
    exact heval
  · refine hrefs.imp ?_
    rintro item r ⟨value, hvalue, hr⟩
    exact ⟨value, hvalue, hr.grows hmade⟩

/-- Where a call fails, so does the evaluation, with the error of the first call that does. -/
theorem run_runText_of_error {before later : List (Option Ref)} {item : Option Ref} {e : Fault}
    (hm : Mappable w l k scope h x (before ++ item :: later)) (hh : Script.isName h = true)
    (hx : Script.isName x = true) (hf : ∀ called ∈ before ++ [item], Runs w l f [called])
    (hok : ∀ called ∈ before, ∃ v, outcome w l.shape f [called] = .ok v)
    (he : outcome w l.shape f [item] = .error e) (n : Nat) :
    ∃ w', Undisturbed w w' ∧ w'.stats.calls = w.stats.calls + .ofNat (before.length + 1) ∧
      (Script.runText (Recursion.level (n + 2)).call k (some scope) .eval
        (Script.mapping h x)).run.run w = (.ok (.error e), w') := by
  obtain ⟨xs, hxs, hitems⟩ := hm.list
  have hlive : ∀ called ∈ before ++ [item], w.outside.store.heap.Live called := by
    intro called hc
    refine hm.live called ?_
    rw [List.append_cons]
    exact List.mem_append_left later hc
  obtain ⟨w', hw', hcalls, heach⟩ := hm.serves.run_callEach_of_error hlive hf hok he n
  have hmap : (Script.eval (Recursion.level (n + 2)).call k ⟨some scope, ∅⟩ _).run.run w = _ :=
    Script.run_eval_map hm.callable hxs (Heap.get_of_getElem? hitems) hm.mapUnbound
  rw [Eval.run_bind_of_error heach] at hmap
  refine ⟨w', hw', hcalls, ?_⟩
  unfold Script.runText
  rw [Script.Expr.ofText_mapping hh hx]
  change (Script.eval _ k ⟨some scope, ∅⟩ (Script.mappingExpr h x)).run.run w = _
  unfold Script.mappingExpr Script.eval
  refine Eval.run_bind_of_error ?_
  unfold Script.evalAll
  exact Eval.run_bind_of_error hmap

end Mappable

/-- Source other than that which makes a buffer, whose text fails with an error, leaves the error
pending. -/
theorem run_runString_of_error {call : Script.Caller Bench} {source : String}
    (hne : (source == Capture.source) = false) {mode : Mode} {globals : Option Ref} {e : Fault}
    {w' : Session} (h : (Script.runText call k globals mode source).run.run
      (w.happening [.ran k source]) = (.ok (.error e), w')) :
    ((Script.interface call k).runString source mode globals).run w =
      (.ok none, w'.raising k e) := by
  change (Script.runString call k source mode globals).run w = _
  unfold Script.runString
  rw [Exec.run_bind_of_ok (Quiet.run_run _ _), hne, if_neg Bool.false_ne_true]
  exact Exec.run_bind_of_ok h

/-- Source that leaves an error pending is run once the built-in names are bound, and then the error
is reported. -/
theorem run_execute_of_none {I : Interpreter Bench.Outside} {c : Context} {source : String}
    (hcrosses : Image.crosses source = true) {mode : Mode} (showErrors : Bool) {v w' : Session}
    (hb : (Context.ensureBuiltins I c).run w = (.ok (), v))
    (h : (I.runString source mode c.globals).run v = (.ok none, w')) :
    (c.execute I source mode showErrors).run w =
      (do
        Context.reportError I showErrors
        return none : Exec Session (Option Ref)).run w' := by
  unfold Context.execute
  rw [if_pos hcrosses, Exec.run_bind_of_ok hb, Exec.run_bind_of_ok h]
  rfl

/-- **Mapping a lambda over a list gives what its function gives.** A list and the callable of an
unreleased lambda are bound in the namespace of a context, and the names of the built-in functions
are not. If the lambda does what a function does on every item and no call fails, the source of the
mapping gives a list of the same length whose items are built from what the function gives; each
call is counted; and mapping the callable directly gives objects that are built from the same
values. Otherwise the calls up to the first that fails are counted, whatever the lambda would do on
later items, and the evaluation fails with the error of that call, which is then reported. -/
theorem mapping_follows_function (hw : Reachable w) {i j : Nat} (hu : Unreleased w.lambdas i l)
    (hm : l.machine = .scripted j) (hb : w.bound = some (.scripted k))
    (hk : k < w.outside.store.machines.size) {c : Context} (hc : c.machine = .scripted k)
    {h x : String} (hh : Script.isName h = true) (hx : Script.isName x = true)
    (hcallable : w.outside.store.binding? c.globals h = some (some l.callable)) {xs : Ref}
    (hxs : w.outside.store.binding? c.globals x = some (some xs))
    (hitems : w.outside.store.heap.objects[xs]? = some (.list items))
    (hlive : ∀ item ∈ items, w.outside.store.heap.Live item)
    (hmap : w.outside.store.binding? c.globals "map" = none)
    (hlist : w.outside.store.binding? c.globals "list" = none) (n : Nat) (showErrors : Bool)
    (f : Arguments → Except Payload HostValue) :
    ((∀ item ∈ items, Runs w l f [item] ∧ ∃ v, outcome w l.shape f [item] = .ok v) →
      (∃ (r : Ref) (refs : List (Option Ref)) (w' : Session),
        (c.execute ((Recursion.level (n + 2)).machine c.machine) (Script.mapping h x) .eval
          showErrors).run w = (.ok (some r), w') ∧
        w'.outside.store.heap.objects[r]? = some (.list refs) ∧ refs.length = items.length ∧
        List.Forall₂ (Yields w l.shape f w'.outside.store.heap) items refs ∧
        w'.stats.calls = w.stats.calls + .ofNat items.length) ∧
      ∃ (refs : List (Option Ref)) (w' : Session),
        (Perform.mapObjects (Recursion.level (n + 2)) k (some l.callable) items).run w =
          (.ok refs, w') ∧
        List.Forall₂ (Yields w l.shape f w'.outside.store.heap) items refs) ∧
    ∀ before item later e, items = before ++ item :: later →
      (∀ called ∈ before, ∃ v, outcome w l.shape f [called] = .ok v) →
      outcome w l.shape f [item] = .error e →
      (∀ called ∈ before ++ [item], Runs w l f [called]) →
      ∃ w' : Session,
        (c.execute ((Recursion.level (n + 2)).machine c.machine) (Script.mapping h x) .eval
          showErrors).run w =
            (do
              Context.reportError ((Recursion.level (n + 2)).machine c.machine) showErrors
              return none : Exec Session (Option Ref)).run w' ∧
        w'.pending k = some e ∧ w'.stats.calls = w.stats.calls + .ofNat (before.length + 1) := by
  have hmappable : Mappable w l k c.globals h x items :=
    ⟨⟨hw.tidy, ⟨i, hu⟩, ⟨j, hm⟩, hb, hk⟩, hcallable, ⟨xs, hxs, hitems⟩, hlive, hmap, hlist⟩
  have hready := hmappable.upkeep.ran (Script.mapping h x)
  have hgrows : w.outside.store.Grows ((w.happening (Capture.upkeep c k w)).happening
      [.ran k (Script.mapping h x)]).outside.store :=
    (Store.Leads.grows ⟨Capture.upkeep c k w, rfl⟩).trans
      (Store.Leads.grows ⟨[.ran k (Script.mapping h x)], rfl⟩)
  obtain ⟨names, hnames⟩ := Capture.exists_names_of_binding? hcallable
  have hcrosses := Script.crosses_mapping hh hx
  have hne := Script.mapping_ne_source h x
  rw [hc]
  refine ⟨fun hall => ⟨?_, ?_⟩, ?_⟩
  · obtain ⟨r, refs, w', heval, hr, hrefs, hcalls⟩ := hready.run_runText hh hx
      (fun item hitem => (hall item hitem).1.later (hlive item hitem) hgrows)
      (fun item hitem => by
        rw [Dispatch.outcome_of_grows (hlive item hitem) hgrows]
        exact (hall item hitem).2) n
    have hv := Capture.run_runString hne heval
    have hyields := yields_of_grows hlive hgrows hrefs
    exact ⟨r, refs, w', Capture.run_execute hnames hcrosses .eval showErrors hv, hr,
      hyields.length_eq.symm, hyields, hcalls⟩
  · obtain ⟨refs, w', -, -, hrefs, heach⟩ := hmappable.serves.run_callEach hlive
      (fun item hitem => (hall item hitem).1) (fun item hitem => (hall item hitem).2) n
    exact ⟨refs, w', Script.run_mapObjects_of_callEach heach, hrefs⟩
  · rintro before item later e rfl hok he hf
    have hcalled : ∀ called ∈ before ++ [item], w.outside.store.heap.Live called := by
      intro called hmem
      refine hlive called ?_
      rw [List.append_cons]
      exact List.mem_append_left later hmem
    obtain ⟨w', hw', hcalls, heval⟩ := hready.run_runText_of_error hh hx
      (fun called hmem => (hf called hmem).later (hcalled called hmem) hgrows)
      (fun called hmem => by
        rw [Dispatch.outcome_of_grows (hcalled called (List.mem_append_left _ hmem)) hgrows]
        exact hok called hmem)
      (by
        rw [Dispatch.outcome_of_grows (hcalled item (by simp)) hgrows]
        exact he) n
    have hv := run_runString_of_error hne heval
    have hlt : k < w'.outside.store.machines.size := (hgrows.trans hw'.grows).lt_machines hk
    have hexecute :=
      run_execute_of_none hcrosses showErrors (Capture.run_ensureBuiltins hnames) hv
    exact ⟨w'.raising k e, hexecute, pending_raising hlt e, hcalls⟩

/-- Twice an integer, unless that is no word. -/
def twice : Arguments → Except Payload HostValue
  | .integer n =>
    match Word.mul? n 2 with
    | .ok m => .ok (.integer m)
    | .error e => .error (.text e.message)
  | _ => .error .other

/-- A lambda that doubles integers is bound in a namespace, beside a list of integers and one with a
text in it. -/
def doubling : List Step := [
  .runtime (.make "main" true), .runtime (.install "main"),
  .context "main" (.open .isolated "main" none none),
  .expose "double" .fresh ⟨.integer, .integer⟩ (Closure.ofFunction twice),
  .context "main" (.setGlobal "double" (.lambda "double")),
  .context "main" (.setGlobal "good" (.list [.integer (-1), .integer 20])),
  .context "main" (.setGlobal "bad" (.list [.integer 8, .text "x", .integer 1]))]

theorem obeys_doubling : ∀ s ∈ doubling, s.Obeys False := by
  intro s hs
  simp only [doubling, List.mem_cons, List.not_mem_nil, or_false] at hs
  rcases hs with rfl | rfl | rfl | rfl | rfl | rfl | rfl
  · exact trivial
  · exact trivial
  · exact trivial
  · exact Closure.obeys_ofFunction False twice
  · exact trivial
  · exact trivial
  · exact trivial

/-- The list of integers is mapped to a list of their doubles; the other list is mapped up to the
text in it. -/
theorem mapping_follows_function_doubling :
    ∃ (w : Session) (c : Context), w = taking 1 doubling Trial.fresh ∧ Reachable w ∧ c.globals = 2 ∧
      (∃ (r first second : Ref) (w' : Session),
        (c.execute ((Recursion.level 2).machine c.machine) (Script.mapping "double" "good") .eval
          true).run w = (.ok (some r), w') ∧
        w'.outside.store.heap.objects[r]? = some (.list [some first, some second]) ∧
        w'.outside.store.heap.objects[first]? = some (.integer (-2)) ∧
        w'.outside.store.heap.objects[second]? = some (.integer 40)) ∧
      ∃ w' : Session,
        (c.execute ((Recursion.level 2).machine c.machine) (Script.mapping "double" "bad") .eval
          true).run w =
            (do
              Context.reportError ((Recursion.level 2).machine c.machine) true
              return none : Exec Session (Option Ref)).run w' ∧
        w'.pending 0 = some (.typeError "an integer is required, not str") ∧
        w'.stats.calls = 2 := by
  have hw : Reachable (taking 1 doubling Trial.fresh) := .taking 1 obeys_doubling
  have hu : Unreleased (taking 1 doubling Trial.fresh).lambdas 0 _ := ⟨rfl, rfl⟩
  let c : Context := { number := 0, machine := .scripted 0, globals := 2 }
  have hlists : (taking 1 doubling Trial.fresh).outside.store.heap.objects[7]? =
        some (.list [some 5, some 6]) ∧
      (taking 1 doubling Trial.fresh).outside.store.heap.objects[11]? =
        some (.list [some 8, some 9, some 10]) := ⟨rfl, rfl⟩
  have hsize : (taking 1 doubling Trial.fresh).outside.store.heap.objects.size = 12 := rfl
  have hfirst : outcome (taking 1 doubling Trial.fresh) ⟨.integer, .integer⟩ twice [some 5] =
    .ok (.long (-2)) := rfl
  have hsecond : outcome (taking 1 doubling Trial.fresh) ⟨.integer, .integer⟩ twice [some 6] =
    .ok (.long 40) := rfl
  obtain ⟨⟨r, refs, w', heval, hr, -, hrefs, -⟩, -⟩ := (mapping_follows_function hw hu rfl rfl
    (by decide) (c := c) rfl (h := "double") (x := "good") (by decide) (by decide) rfl rfl
    hlists.1 (by simp [hsize]) rfl rfl 0 true twice).1 (by
      intro item hitem
      simp only [List.mem_cons, List.not_mem_nil, or_false] at hitem
      rcases hitem with rfl | rfl
      · exact ⟨fun _ _ => rfl, _, hfirst⟩
      · exact ⟨fun _ _ => rfl, _, hsecond⟩)
  obtain ⟨_, _, hyields, hrest, rfl⟩ := List.forall₂_cons_left_iff.mp hrefs
  obtain ⟨_, _, hyields', hnil, rfl⟩ := List.forall₂_cons_left_iff.mp hrest
  obtain rfl := List.forall₂_nil_left_iff.mp hnil
  obtain ⟨first, rfl, hintegers⟩ := hyields.exists_integer hfirst
  obtain ⟨second, rfl, hintegers'⟩ := hyields'.exists_integer hsecond
  obtain ⟨w'', heval', hpending, hcalls⟩ := (mapping_follows_function hw hu rfl rfl
    (by decide) (c := c) rfl (h := "double") (x := "bad") (by decide) (by decide) rfl rfl
    hlists.2 (by simp [hsize]) rfl rfl 0 true twice).2
    [some 8] (some 9) [some 10] _ rfl (by
      intro called hcalled
      obtain rfl := List.mem_singleton.mp hcalled
      exact ⟨.long 16, rfl⟩) rfl fun _ _ _ _ => rfl
  exact ⟨_, c, rfl, hw, rfl, ⟨r, first, second, w', heval, hr, hintegers, hintegers'⟩, w'', heval',
    hpending, hcalls⟩

end Session

end ClosureBridge
