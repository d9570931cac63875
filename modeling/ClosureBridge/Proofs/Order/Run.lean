import ClosureBridge.Proofs.Capture.Buffer
import ClosureBridge.Proofs.Lambda.Registered
import ClosureBridge.Proofs.Order.Perform

/-!
# Every heap is in order

Code of the host uses references that are there and those that it gets, and whatever it does leaves
an orderly state; so does every call of an object, with any number of levels of nesting left. Hence
in every heap that a run makes the items of lists and tuples are older than what holds them, and the
recursion that shows an object ends.

## Main definitions

* `Session.Arises`: the states that runs lead to from the start of a trial.

## Main statements

* `Recursion.Gives.program`, `Recursion.Gives.step`: programs and steps give what is there.
* `Recursion.gives_level`: so do calls inside them.
* `Session.items_older`: items are older than what holds them, and texts and comparisons end.
-/

namespace ClosureBridge

variable {n : Nat}

namespace Recursion

namespace Gives

open Exec.Gives

variable {r : Recursion}

mutual

/-- What a program ends with is there. -/
theorem program (hr : r.Gives) {t : Task} {n : Nat} :
    ∀ p : Program t, p.Within n → Exec.Gives n (fun k v => t.Within k v) (Run.program r p)
  | .done _, h => pure fun _ hk => Task.Within.mono hk h
  | .panic payload, _ => panic payload
  | .build term k, h =>
    bind (object term h.1) fun m hm o ho => program hr (k o) (h.2 m hm o ho)
  | .lookup id args k, h => by
    unfold Run.program
    refine bind_get fun w hw hn => ?_
    split
    · exact program hr (k none) (h.2 _ hn none nofun) w hw (Nat.le_refl _)
    · next shape call hget =>
      -- The closure may have been registered long ago, but it is such code for any later state.
      have hcall : call.Within w.extent := hw.closures _ _ _ hget
      have hrun := hr.host (hcall _ (Nat.le_refl _) args (h.1.mono hn))
      refine bind hrun (fun m hm v hv => ?_) w hw (Nat.le_refl _)
      refine program hr (k (some v)) (h.2 m (Nat.le_trans hn hm) (some v) fun a ha => ?_)
      exact Option.some.inj ha ▸ hv
  | .execute name source mode showErrors k, h => by
    unfold Run.program
    refine bind (contextNamed name) fun m hm c hc => ?_
    refine bind (execute (hr.interpreter hc.2) hc source mode showErrors) fun m' hm' o ho => ?_
    exact program hr (k o) (h m' (Nat.le_trans hm hm') o ho)
  | .unregister _ k, h =>
    bind (unregister _) fun m hm b _ => program hr (k b) (h m hm b)
  | .step s k, h =>
    bind (step hr s h.1).catchPanic fun m hm _ _ => program hr (k _) (h.2 m hm _)

/-- The object of the answer to a step is there. -/
theorem step (hr : r.Gives) {n : Nat} :
    ∀ s : Step, s.Within n → Exec.Gives n Answer.Within (Run.step r s)
  | .saving name s, h =>
    bind (step hr s h) fun _ _ a ha => bind (save name ha) fun _ hk _ _ =>
      pure fun _ hk' => (RefWithin.mono hk ha).mono hk'
  | .runtime _, h => hr.runtime h
  | .context name _, h => hr.context name h
  | .inspect name _, h => hr.inspect name h
  | .interface name _, h => hr.interface name h
  | .marshal name _, h => hr.marshal name h
  | .handle request, _ => hr.handle request
  | .registry _, h => hr.registry h
  | .expose name how shape _, h =>
    bind (hr.exposure how shape h) fun _ _ _ _ => ofExcept (Q := Untold) (fun _ _ => trivial)
      fun _ _ => bind (modifyNames (fun _ => rfl) (fun _ => rfl) fun _ => rfl) fun _ _ _ _ =>
        bind (lambdaJson _) fun _ _ _ _ => plain _
  | .register id shape _, h => registration id shape h
  | .scoped how shape _ body, h =>
    bind (hr.exposure how shape h.1) fun _ hk _ _ => ofExcept (Q := Untold) (fun _ _ => trivial)
      fun i _ => hr.withLambda i
        (bind ((program hr body h.2).mono hk) fun _ _ _ _ => plain _)
  | .scopedName name body, h => by
    unfold Run.step
    refine bind getDesk fun _ hk _ _ => ?_
    split
    · exact pure fun _ _ => refWithin_none
    · next i _ =>
      refine bind (modifyNames (fun _ => rfl) (fun _ => rfl) fun _ => rfl) fun _ hk' _ _ => ?_
      exact hr.withLambda i (bind (((program hr body h).mono hk).mono hk') fun _ _ _ _ => plain _)
  | .cell name source marker handler, h => by
    unfold Run.step
    refine bind (contextNamed name) fun k hk c hc => ?_
    cases handler with
    | none => exact hr.cell hc source marker nofun
    | some f =>
      refine hr.cell hc source marker fun g hg directive argument => ?_
      obtain rfl := Option.some.inj hg
      exact (program hr (f directive argument) (h k hk directive argument)).untold

end

end Gives

/-- Calls of the router give what is there where calls of objects and of closures do. -/
theorem gives_of {r : Recursion} (hc : r.call.Gives)
    (hh : ∀ {n : Nat} {p : Program .value}, p.Within n →
      Exec.Gives n HostValue.Within (r.host p)) : r.Gives where
  call := hc
  host := hh
  enter := Exec.Gives.dispatch hc hh

/-- Calls give what is there, with any number of levels of nesting left. -/
theorem gives_level (n : Nat) : (level n).Gives := by
  induction n with
  | zero => exact gives_of (fun _ _ _ _ => Script.Eval.Gives.ofExec .exhausted) fun _ => .exhausted
  | succ n ih =>
    exact gives_of (Script.Eval.Gives.invoke ih.call ih.enter) fun {_} {p} hp => ih.program p hp

end Recursion

/-! ### Every heap -/

namespace Script

/-- Up to any point of what happens to a store, items are older than what holds them if they are at
the end: a list or a tuple stays what it is. -/
theorem Store.aged_of_after (s : Store) (rest : List Event) (h : (s.after rest).heap.Aged) :
    s.heap.Aged := by
  intro r o items hr hitems
  have hfix : o.isFixed = true := by cases o <;> first | rfl | cases hitems
  exact h r o items ((s.grows_after rest).fixed hr hfix) hitems

/-- The text that an object converts to is its own, or the one that shows it. -/
theorem Heap.Aged.str_eq {h : Heap} (hh : h.Aged) (descriptors : DescriptorPool) {r : Option Ref}
    {k : Nat} (hk : depth r ≤ k) :
    h.get r = .text (h.str descriptors r) ∨
      h.show? descriptors k r = some (h.str descriptors r) := by
  unfold Heap.str
  split
  · next text htext => exact .inl htext
  · exact .inr (hh.show?_eq descriptors hk)

end Script

namespace Session

/-- A state that runs lead to from the start of a trial: steps, programs, calls of objects and calls
of the router, with any number of levels of nesting, that use references to objects that are there
by then. -/
inductive Arises : Session → Prop where
  | fresh : Arises Trial.fresh
  | step {w : Session} (n : Nat) {s : Step} (h : Arises w) (hs : s.Within w.extent) :
      Arises ((Run.step (.level n) s).run w).2
  | program {w : Session} (n : Nat) {t : Task} {p : Program t} (h : Arises w)
      (hp : p.Within w.extent) : Arises ((Run.program (.level n) p).run w).2
  | call {w : Session} (n i : Nat) (f : Option Ref) {args : List (Option Ref)} (h : Arises w)
      (hargs : RefsWithin w.extent args) : Arises (((Recursion.level n).call i f args).run.run w).2
  | enter {w : Session} (n : Nat) (self args : Option Ref) (h : Arises w) :
      Arises (((Recursion.level n).enter self args).run w).2

namespace Arises

variable {w : Session}

/-- It is orderly: the start is, and every run leaves an orderly state where there was one. -/
theorem orderly (h : Arises w) : Orderly w := by
  induction h with
  | fresh => exact orderly_fresh
  | step n _ hs ih =>
    exact ((Recursion.gives_level n).step _ hs _ ih (Nat.le_refl _)).orderly
  | program n _ hp ih =>
    exact ((Recursion.gives_level n).program _ hp _ ih (Nat.le_refl _)).orderly
  | call n i f _ hargs ih =>
    exact ((Recursion.gives_level n).call i f _ hargs _ ih (Nat.le_refl _)).orderly
  | enter n self args _ ih =>
    exact ((Recursion.gives_level n).enter self args _ ih (Nat.le_refl _)).orderly

/-- Steps of a bench are taken. -/
theorem taking (h : Arises w) (n : Nat) {steps : List Step}
    (hs : ∀ s ∈ steps, s.OnBench) : Arises (taking n steps w) := by
  induction steps generalizing w with
  | nil => exact h
  | cons s rest ih =>
    exact ih (h.step n ((hs s List.mem_cons_self).within _))
      fun s' hs' => hs s' (List.mem_cons_of_mem s hs')

/-- All that happens to the store is events. -/
theorem leads (h : Arises w) : ({} : Script.Store).Leads w.outside.store := by
  have hP := stable_advances Trial.fresh
  suffices Advances Trial.fresh w from this.events
  induction h with
  | fresh => exact .refl _
  | step n _ _ ih => exact hP.step (hP.level n) _ (Step.obeys_of_direct trivial _) _ ih
  | program n _ _ ih => exact hP.program (hP.level n) _ (Program.obeys_of_direct trivial _) _ ih
  | call n i f _ _ ih => exact (hP.level n).call i f _ _ ih
  | enter n self args _ ih => exact (hP.level n).enter self args _ ih

end Arises

open Script in
/-- **Items are older than what holds them, so every text ends.** Events alone make the store of a
state that runs lead to, and at any point of them every item of a list or a tuple is older than the
list or the tuple. So the recursion that shows an object, whatever the object is, ends at its depth
with the text that scripts see, and goes no deeper when it may; the text that an object converts to
is its own, or that one; and a comparison of objects ends with a truth value. -/
theorem items_older {w : Session} (hw : Arises w) :
    (∃ events, w.outside.store = ({} : Store).after events) ∧
      ∀ past rest, w.outside.store = ({} : Store).after (past ++ rest) →
        let h := (({} : Store).after past).heap
        (∀ (r s : Ref) (o : Object) items, h.objects[r]? = some o → o.items? = some items →
            some s ∈ items → s < r) ∧
          (∀ (d : DescriptorPool) (r : Option Ref) (k : Nat), Heap.depth r ≤ k →
            h.show? d k r = some (h.repr d r) ∧
              (h.get r = .text (h.str d r) ∨ h.show? d k r = some (h.str d r))) ∧
          ∀ (call : Caller Bench) (m : Nat) (scope : Scope) (a b : Expr) (u u₁ u₂ : Session)
            (r r' : Option Ref), u₂.outside.store = ({} : Store).after past →
            (eval call m scope a).run.run u = (.ok (.ok r), u₁) →
            (eval call m scope b).run.run u₁ = (.ok (.ok r'), u₂) →
            ∃ text text', (∀ k, Heap.depth r ≤ k → h.show? u₂.descriptors k r = some text) ∧
              (∀ k, Heap.depth r' ≤ k → h.show? u₂.descriptors k r' = some text') ∧
              (eval call m scope (.equal a b)).run.run u =
                (.ok (.ok (some h.objects.size)), u₂.making (.boolean (text == text'))) := by
  refine ⟨hw.leads, fun past rest hstore => ?_⟩
  -- What happens after that point is only known to keep lists and tuples, which is enough.
  have haged : (({} : Store).after past).heap.Aged := by
    refine Store.aged_of_after _ rest ?_
    rw [← Store.after_append, ← hstore]
    exact hw.orderly.store.aged
  refine ⟨fun r s o items ho hitems hs => haged r o items ho hitems _ hs s rfl,
    fun d r k hk => ⟨haged.show?_eq d hk, haged.str_eq d hk⟩, ?_⟩
  intro call m scope a b u u₁ u₂ r r' hu₂ ha hb
  refine ⟨_, _, fun k hk => haged.show?_eq _ hk, fun k hk => haged.show?_eq _ hk, ?_⟩
  unfold eval
  rw [Eval.run_bind_of_ok ha, Eval.run_bind_of_ok hb, ← hu₂]
  rfl

/-- A namespace gets a tuple that holds the namespace, and source calls a closure with a list of the
tuple. -/
def circling : List Step := [
  .runtime (.make "main" true), .runtime (.install "main"),
  .context "main" (.open .main "main" none none),
  .expose "f" (.withId "f") ⟨.object, .object⟩ Closure.echo,
  .context "main" (.setGlobal "f" (.lambda "f")),
  .context "main" (.setGlobal "around" (.tuple [.globals "main"])),
  .context "main" (.run "answer = f([around])" .file)]

theorem onBench_circling : ∀ s ∈ circling, s.OnBench := by
  intro s hs
  simp only [circling, List.mem_cons, List.not_mem_nil, or_false] at hs
  rcases hs with rfl | rfl | rfl | rfl | rfl | rfl | rfl
  · exact .plain fun _ => trivial
  · exact .plain fun _ => trivial
  · exact .plain fun _ => trivial
  · exact .expose "f" (.withId "f") ⟨.object, .object⟩ .echo
  · exact .plain fun _ => trivial
  · exact .plain fun _ => ⟨trivial, trivial⟩
  · exact .plain fun _ => trivial

/-- The namespace is in a circle with the tuple that it binds, and the list is shown all the same,
by a recursion that goes no further than the namespace. -/
theorem items_older_circling :
    Arises (taking 2 circling Trial.fresh) ∧
      (taking 2 circling Trial.fresh).outside.store.binding? 0 "around" = some (some 4) ∧
      ((taking 2 circling Trial.fresh).outside.store.heap.get (some 4)).items? = some [some 0] ∧
      (taking 2 circling Trial.fresh).outside.store.binding? 0 "answer" = some (some 5) ∧
      ((taking 2 circling Trial.fresh).outside.store.heap.get (some 5)).items? = some [some 4] ∧
      ∀ k, 6 ≤ k → (taking 2 circling Trial.fresh).outside.store.heap.show? {} k (some 5) =
        some "[({4 items},)]" := by
  have hw : Arises (taking 2 circling Trial.fresh) := Arises.fresh.taking 2 onBench_circling
  have hshow {w : Session} (hw : Arises w) {r : Option Ref} {k : Nat}
      (hk : Script.Heap.depth r ≤ k) :
      w.outside.store.heap.show? {} k r = some (w.outside.store.heap.repr {} r) := by
    obtain ⟨⟨events, hevents⟩, hheap⟩ := items_older hw
    obtain ⟨-, htexts, -⟩ := hheap events [] (by rw [List.append_nil, hevents])
    rw [hevents]
    exact (htexts {} r k hk).1
  have htext : (taking 2 circling Trial.fresh).outside.store.heap.repr {} (some 5) =
      "[({4 items},)]" := by decide +kernel
  refine ⟨hw, by decide +kernel, by decide +kernel, by decide +kernel, by decide +kernel, ?_⟩
  exact fun k hk => (hshow hw hk).trans (congrArg some htext)

end Session

end ClosureBridge
