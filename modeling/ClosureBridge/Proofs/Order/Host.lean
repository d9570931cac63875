import ClosureBridge.Bench.Run
import ClosureBridge.Proofs.Order.Heap

/-!
# Host code that makes up no references

The host never looks behind a reference, and it gets its references from the library. Code of the
host that uses no others refers to objects that were there when it began and to those that it has
got since.

## Main definitions

* `HostValue.Within`, `Arguments.Within`, `Term.Within`, …: what the host has in hand refers to the
  first objects only.
* `Program.Within`, `Step.Within`: host code that uses references to the first objects, and those
  that it gets, however many objects there are by then.
* `Closure.Within`: a closure whose programs are such.
* `Shelf.IsIdle`: no image of a shelf has an interpreter in it.
* `Closure.OnBench`, `Step.OnBench`: the closures and the steps of a bench, whose objects have
  names.

## Main statements

* `Program.within_bind`, `Program.within_steps`: programs and steps one after another.
* `Closure.OnBench.within`, `Step.OnBench.within`: code of a bench uses no references but those that
  it gets.
-/

namespace ClosureBridge

variable {n m : Nat}

/-! ### Values, arguments and terms -/

/-- A value refers to the first objects only. -/
def HostValue.Within (n : Nat) : HostValue → Prop
  | .object r => r < n
  | _ => True

/-- Arguments refer to the first objects only. -/
def Arguments.Within (n : Nat) : Arguments → Prop
  | .object a => a < n
  | .pair a b => a < n ∧ b < n
  | .triple a b c => a < n ∧ b < n ∧ c < n
  | _ => True

/-- What a tuple was unpacked into refers to the first objects only. -/
def Unpacked.Within (n : Nat) : Unpacked → Prop
  | .objects rs => ∀ r ∈ rs, r < n
  | _ => True

/-- What an object is built from refers to the first objects only. -/
def Built.Within (n : Nat) : Built → Prop
  | .object r => r < n
  | _ => True

/-- What a program ends with refers to the first objects only. -/
def Task.Within (n : Nat) : (t : Task) → t.Result → Prop
  | .value, v => v.Within n
  | .typed kind, r => (HostValue.ofCarrier kind r).Within n
  | .directive, _ => True
  | .answer, _ => True

mutual

/-- A term refers to the first objects only. -/
def Term.Within (n : Nat) : Term → Prop
  | .list items => Term.AllWithin n items
  | .tuple items => Term.AllWithin n items
  | .raw r => RefWithin n r
  | _ => True

/-- Terms refer to the first objects only. -/
def Term.AllWithin (n : Nat) : List Term → Prop
  | [] => True
  | t :: rest => t.Within n ∧ Term.AllWithin n rest

end

/-- A value as host code writes it refers to the first objects only. -/
def ValueTerm.Within (n : Nat) : ValueTerm → Prop
  | .object t => t.Within n
  | _ => True

/-- Arguments as host code writes them refer to the first objects only. -/
def ArgumentsTerm.Within (n : Nat) : ArgumentsTerm → Prop
  | .object a => a.Within n
  | .pair a b => a.Within n ∧ b.Within n
  | .triple a b c => a.Within n ∧ b.Within n ∧ c.Within n
  | _ => True

/-- A value to build an object from refers to the first objects only. -/
def BuildTerm.Within (n : Nat) : BuildTerm → Prop
  | .object t => t.Within n
  | _ => True

theorem HostValue.Within.mono (h : n ≤ m) {v : HostValue} (hv : v.Within n) : v.Within m := by
  cases v with
  | object r => exact Nat.lt_of_lt_of_le hv h
  | _ => trivial

theorem Arguments.Within.mono (h : n ≤ m) {args : Arguments} (ha : args.Within n) :
    args.Within m := by
  cases args with
  | object a => exact Nat.lt_of_lt_of_le ha h
  | pair a b => exact ⟨Nat.lt_of_lt_of_le ha.1 h, Nat.lt_of_lt_of_le ha.2 h⟩
  | triple a b c =>
    exact ⟨Nat.lt_of_lt_of_le ha.1 h, Nat.lt_of_lt_of_le ha.2.1 h, Nat.lt_of_lt_of_le ha.2.2 h⟩
  | _ => trivial

theorem Task.Within.mono (h : n ≤ m) {t : Task} {r : t.Result} (hr : t.Within n r) :
    t.Within m r := by
  cases t with
  | value => exact HostValue.Within.mono h hr
  | typed kind => exact HostValue.Within.mono h hr
  | _ => trivial

/-! ### Requests -/

/-- No image of a shelf has the entry points of an interpreter. -/
structure Shelf.IsIdle (shelf : Shelf) : Prop where
  path : ∀ {path : String} {image : Image}, Image.openPath shelf path = .ok image →
    ∃ e, Native.Symbols.resolve image = .error e
  name : ∀ {name : String} {image : Image}, Image.openName shelf name = .ok image →
    ∃ e, Native.Symbols.resolve image = .error e

/-- A request that leads to no interpreter but scripted ones. -/
def RuntimeRequest.IsScripted : RuntimeRequest → Prop
  | .load _ _ _ _ shelf => shelf.IsIdle
  | .bind _ _ shelf => shelf.IsIdle
  | .resolve _ _ shelf => shelf.IsIdle
  | .begin _ _ _ _ shelf => shelf.IsIdle
  | _ => True

/-- A request to a context refers to the first objects only. -/
def ContextRequest.Within (n : Nat) : ContextRequest → Prop
  | .setGlobal _ value => value.Within n
  | .getAttr object _ => object.Within n
  | .setAttr object _ value => object.Within n ∧ value.Within n
  | .strOf object => object.Within n
  | .reprOf object => object.Within n
  | .discard object => object.Within n
  | _ => True

/-- A request to a scripted interpreter refers to the first objects only. -/
def InspectRequest.Within (n : Nat) : InspectRequest → Prop
  | .object value => value.Within n
  | .same a b => a.Within n ∧ b.Within n
  | .call callable args => callable.Within n ∧ Term.AllWithin n args
  | .map callable values => callable.Within n ∧ Term.AllWithin n values
  | _ => True

/-- A request for one operation refers to the first objects only. -/
def InterfaceRequest.Within (n : Nat) : InterfaceRequest → Prop
  | .parseTuple args _ => args.Within n
  | .buildValue value => value.Within n
  | .textOf object => object.Within n
  | .strOf object => object.Within n
  | .reprOf object => object.Within n
  | .incref object => object.Within n
  | .decref object => object.Within n
  | .dictGet object _ => object.Within n
  | .dictSet object _ value => object.Within n ∧ value.Within n
  | .getAttr object _ => object.Within n
  | .setAttr object _ value => object.Within n ∧ value.Within n
  | .runString _ _ scope => scope.Within n
  | _ => True

/-- A request to carry something across the boundary refers to the first objects only. -/
def MarshalRequest.Within (n : Nat) : MarshalRequest → Prop
  | .parseIn args _ => args.Within n
  | .buildOut value _ => value.Within n
  | .handle object => object.Within n
  | .none => True

/-- A request to the registry or the router refers to the first objects only. -/
def RegistryRequest.Within (n : Nat) : RegistryRequest → Prop
  | .call _ args => args.Within n
  | .dispatch self args => self.Within n ∧ args.Within n
  | _ => True

/-! ### Programs -/

mutual

/-- A program that uses references to the first objects, and those that it gets. It gets them when
there may be more objects than before. -/
def Program.Within {t : Task} : Nat → Program t → Prop
  | n, .done r => t.Within n r
  | _, .panic _ => True
  | n, .build term k =>
    term.Within n ∧ ∀ m, n ≤ m → ∀ r, RefWithin m r → (k r).Within m
  | n, .lookup _ args k =>
    args.Within n ∧ ∀ m, n ≤ m → ∀ v : Option HostValue, (∀ a ∈ v, a.Within m) → (k v).Within m
  | n, .execute _ _ _ _ k => ∀ m, n ≤ m → ∀ r, RefWithin m r → (k r).Within m
  | n, .unregister _ k => ∀ m, n ≤ m → ∀ b, (k b).Within m
  | n, .step s k => s.Within n ∧ ∀ m, n ≤ m → ∀ outcome, (k outcome).Within m

/-- A step that uses references to the first objects, and those that it gets. -/
def Step.Within : Nat → Step → Prop
  | n, .saving _ s => s.Within n
  | _, .runtime request => request.IsScripted
  | n, .context _ request => request.Within n
  | n, .inspect _ request => request.Within n
  | n, .interface _ request => request.Within n
  | n, .marshal _ request => request.Within n
  | _, .handle _ => True
  | n, .registry request => request.Within n
  | n, .expose _ _ _ call => ∀ m, n ≤ m → ∀ args : Arguments, args.Within m → (call args).Within m
  | n, .register _ _ call => ∀ m, n ≤ m → ∀ args : Arguments, args.Within m → (call args).Within m
  | n, .scoped _ _ call body =>
    (∀ m, n ≤ m → ∀ args : Arguments, args.Within m → (call args).Within m) ∧ body.Within n
  | n, .scopedName _ body => body.Within n
  | n, .cell _ _ _ handler =>
    match handler with
    | none => True
    | some handler => ∀ m, n ≤ m → ∀ directive argument, (handler directive argument).Within m

end

/-- One program after another. -/
theorem Program.within_bind {t u : Task} {f : t.Result → Program u} {n : Nat}
    (hf : ∀ m, n ≤ m → ∀ v, t.Within m v → (f v).Within m) :
    {p : Program t} → p.Within n → (p.bind f).Within n
  | .done v, h => hf n (Nat.le_refl n) v h
  | .panic _, _ => trivial
  | .build _ _, h => ⟨h.1, fun m hm r hr =>
    within_bind (fun m' hm' => hf m' (Nat.le_trans hm hm')) (h.2 m hm r hr)⟩
  | .lookup _ _ _, h => ⟨h.1, fun m hm v hv =>
    within_bind (fun m' hm' => hf m' (Nat.le_trans hm hm')) (h.2 m hm v hv)⟩
  | .execute _ _ _ _ _, h => fun m hm r hr =>
    within_bind (fun m' hm' => hf m' (Nat.le_trans hm hm')) (h m hm r hr)
  | .unregister _ _, h => fun m hm b =>
    within_bind (fun m' hm' => hf m' (Nat.le_trans hm hm')) (h m hm b)
  | .step _ _, h => ⟨h.1, fun m hm outcome =>
    within_bind (fun m' hm' => hf m' (Nat.le_trans hm hm')) (h.2 m hm outcome)⟩

/-- A step whose panic goes on. -/
theorem Program.within_proceed {t : Task} {s : Step} {k : Json → Program t} (hs : s.Within n)
    (hk : ∀ m, n ≤ m → ∀ answer, (k answer).Within m) : (Program.proceed s k).Within n := by
  refine ⟨hs, fun m hm outcome => ?_⟩
  cases outcome with
  | ok answer => exact hk m hm answer
  | error payload => trivial

/-- Steps one after another. -/
theorem Program.within_steps {t : Task} {ss : List Step} {answers : List Json}
    {k : List Json → Program t} (hs : ∀ m, n ≤ m → ∀ s ∈ ss, s.Within m)
    (hk : ∀ m, n ≤ m → ∀ answers, (k answers).Within m) :
    (Program.steps ss answers k).Within n := by
  induction ss generalizing n answers with
  | nil => exact hk n (Nat.le_refl n) _
  | cons s rest ih =>
    refine ⟨hs n (Nat.le_refl n) s List.mem_cons_self, fun m hm outcome => ?_⟩
    exact ih (fun m' hm' s' hs' => hs m' (Nat.le_trans hm hm') s' (List.mem_cons_of_mem s hs'))
      fun m' hm' => hk m' (Nat.le_trans hm hm')

/-! ### Closures -/

/-- A closure whose programs use references to the first objects, and those that they get. -/
def Closure.Within (n : Nat) (call : Closure) : Prop :=
  ∀ m, n ≤ m → ∀ args : Arguments, args.Within m → (call args).Within m

namespace Closure

theorem Within.mono (h : n ≤ m) {call : Closure} (hcall : call.Within n) : call.Within m :=
  fun m' hm' => hcall m' (Nat.le_trans h hm')

/-- What a typed closure receives is what the arguments were. -/
theorem within_erase {s : Shape} {f : s.input.Carrier → Program (.typed s.output)}
    (hf : ∀ m, n ≤ m → ∀ (args : Arguments) a, args.Within m → args.extract? s.input = some a →
      (f a).Within m) : (erase s f).Within n := by
  intro m hm args hargs
  cases ha : args.extract? s.input with
  | none =>
    rw [erase, ha]
    trivial
  | some a =>
    rw [erase_of_extract? f ha]
    have hdone : ∀ m', m ≤ m' → ∀ r, Task.Within m' (.typed s.output) r →
        (Program.done (t := .value) (HostValue.ofCarrier s.output r)).Within m' :=
      fun _ _ _ hr => hr
    exact Program.within_bind hdone (hf m hm args a hargs ha)

theorem within_checked (r : Except Overflow Int64) :
    (checked r : Program (.typed .integer)).Within n := by
  cases r <;> trivial

/-- The sample closures that give an object back have received it. -/
theorem within_sample (s : Shape) : (sample s).Within n := by
  refine within_erase fun m _ args a hargs ha => ?_
  obtain ⟨input, output⟩ := s
  cases output with
  | object =>
    cases input with
    | object =>
      cases args with
      | object r => exact Option.some.inj ha ▸ hargs
      | _ => cases ha
    | objectPair =>
      cases args with
      | pair r r' => exact Option.some.inj ha ▸ hargs.2
      | _ => cases ha
    | objectTriple =>
      cases args with
      | triple r r' r'' => exact Option.some.inj ha ▸ hargs.2.2
      | _ => cases ha
    | _ => trivial
  | integer =>
    cases input with
    | integer => exact within_checked _
    | _ => trivial
  | _ => cases input <;> trivial

theorem within_returning {v : ValueTerm} (h : ∀ m, n ≤ m → v.Within m) :
    (returning v).Within n := by
  intro m hm _ _
  have hv := h m hm
  cases v with
  | object t =>
    refine ⟨hv, fun m' _ r hr => ?_⟩
    cases r with
    | none => trivial
    | some r => exact refWithin_some.mp hr
  | _ => trivial

theorem within_echo : echo.Within n := by
  intro m _ args hargs
  cases args with
  | object a => exact hargs
  | pair a b => exact hargs.1
  | triple a b c => exact hargs.1
  | _ => trivial

theorem objects_within {args : Arguments} (h : args.Within n) : ∀ r ∈ objects args, r < n := by
  cases args <;> simp_all [objects, Arguments.Within]

theorem within_pick (i : Nat) : (pick i).Within n := by
  intro m _ args hargs
  unfold pick
  split
  · next r hr => exact objects_within hargs r (List.mem_of_getElem? hr)
  · trivial

theorem within_kindName : kindName.Within n :=
  fun _ _ _ _ => trivial

theorem within_panicking (payload : Payload) : (panicking payload).Within n :=
  fun _ _ _ _ => trivial

theorem within_forwarding (id : String) : (forwarding id).Within n := by
  refine fun m _ args hargs => ⟨hargs, fun m' _ v hv => ?_⟩
  cases v with
  | none => trivial
  | some v => exact hv v rfl

theorem within_executing (context source : String) (mode : Mode) (showErrors : Bool) :
    (executing context source mode showErrors).Within n := by
  intro m _ args _ m' _ r hr
  cases r with
  | none => trivial
  | some r => exact refWithin_some.mp hr

theorem within_unregistering (id : String) : (unregistering id).Within n :=
  fun _ _ _ _ _ _ _ => trivial

theorem within_stepping {s : Step} (h : ∀ m, n ≤ m → s.Within m) : (stepping s).Within n :=
  fun m hm _ _ => Program.within_proceed (h m hm) fun _ _ _ => trivial

theorem within_inSequence {calls : List Closure} (h : ∀ call ∈ calls, call.Within n) :
    (inSequence calls).Within n := by
  induction calls with
  | nil => exact fun _ _ _ _ => trivial
  | cons call rest ih =>
    cases rest with
    | nil => exact h call List.mem_cons_self
    | cons next rest =>
      intro m hm args hargs
      refine Program.within_bind (fun m' hm' _ _ => ?_) (h call List.mem_cons_self m hm args hargs)
      exact ih (fun f hf => h f (List.mem_cons_of_mem call hf)) m' (Nat.le_trans hm hm') args
        (hargs.mono hm')

end Closure

/-- A handler by a table takes the steps of the table. -/
theorem Handler.within_ofRules {rules : Bindings Rule} {otherwise : Rule}
    (hrules : ∀ name rule, rules.get? name = some rule → ∀ s ∈ rule.step, s.Within n)
    (hother : ∀ s ∈ otherwise.step, s.Within n) (directive argument : String) :
    (ofRules rules otherwise directive argument).Within n := by
  have happly {rule : Rule} (h : ∀ s ∈ rule.step, s.Within n) : (apply rule argument).Within n := by
    unfold apply
    cases hs : rule.step with
    | none => trivial
    | some s => exact Program.within_proceed (h s hs) fun _ _ _ => trivial
  unfold ofRules
  cases hrule : rules.get? directive with
  | none => exact happly hother
  | some rule => exact happly (hrules directive rule hrule)

/-! ### Code of a bench -/

mutual

/-- A closure that a bench makes: one of its kinds, which may take a step of the bench or call
closures of the bench. -/
inductive Closure.OnBench : Closure → Prop where
  | sample (s : Shape) : Closure.OnBench (Closure.sample s)
  | returning {v : ValueTerm} (hv : ∀ n, v.Within n) : Closure.OnBench (Closure.returning v)
  | echo : Closure.OnBench Closure.echo
  | pick (i : Nat) : Closure.OnBench (Closure.pick i)
  | kindName : Closure.OnBench Closure.kindName
  | panicking (payload : Payload) : Closure.OnBench (Closure.panicking payload)
  | forwarding (id : String) : Closure.OnBench (Closure.forwarding id)
  | executing (context source : String) (mode : Mode) (showErrors : Bool) :
    Closure.OnBench (Closure.executing context source mode showErrors)
  | stepping {s : Step} (hs : s.OnBench) : Closure.OnBench (Closure.stepping s)
  | unregistering (id : String) : Closure.OnBench (Closure.unregistering id)
  | inSequence {calls : List Closure} (h : ∀ call ∈ calls, Closure.OnBench call) :
    Closure.OnBench (Closure.inSequence calls)

/-- A step that a bench takes: objects have names in it, and the host code in it is made of closures
and steps of the bench and of tables of magic lines. -/
inductive Step.OnBench : Step → Prop where
  | plain {s : Step} (hs : ∀ n, s.Within n) : Step.OnBench s
  | saving (name : String) {s : Step} (hs : Step.OnBench s) : Step.OnBench (.saving name s)
  | expose (name : String) (how : Exposure) (shape : Shape) {call : Closure} (h : call.OnBench) :
    Step.OnBench (.expose name how shape call)
  | register (id : String) (shape : Shape) {call : Closure} (h : call.OnBench) :
    Step.OnBench (.register id shape call)
  | scoped (how : Exposure) (shape : Shape) {call : Closure} {ss : List Step}
    {k : List Json → Program .answer} (h : call.OnBench) (hs : ∀ s ∈ ss, Step.OnBench s)
    (hk : ∀ n answers, (k answers).Within n) :
    Step.OnBench (.scoped how shape call (.steps ss [] k))
  | scopedName (name : String) {ss : List Step} {k : List Json → Program .answer}
    (hs : ∀ s ∈ ss, Step.OnBench s) (hk : ∀ n answers, (k answers).Within n) :
    Step.OnBench (.scopedName name (.steps ss [] k))
  | cell (context source : String) (marker : Option Char) {rules : Bindings Rule}
    {otherwise : Rule}
    (hrules : ∀ name rule, rules.get? name = some rule → ∀ s, rule.step = some s → Step.OnBench s)
    (hother : ∀ s, otherwise.step = some s → Step.OnBench s) :
    Step.OnBench (.cell context source marker (some (Handler.ofRules rules otherwise)))

end

mutual

/-- **Code of a bench makes up no references.** Whatever closure a bench makes, it uses references
to the objects that it receives, and those that it gets. -/
theorem Closure.OnBench.within {call : Closure} (h : call.OnBench) (n : Nat) : call.Within n :=
  match h with
  | .sample s => Closure.within_sample s
  | .returning hv => Closure.within_returning fun m _ => hv m
  | .echo => Closure.within_echo
  | .pick i => Closure.within_pick i
  | .kindName => Closure.within_kindName
  | .panicking payload => Closure.within_panicking payload
  | .forwarding id => Closure.within_forwarding id
  | .executing context source mode showErrors =>
    Closure.within_executing context source mode showErrors
  | .stepping hs => Closure.within_stepping fun m _ => hs.within m
  | .unregistering id => Closure.within_unregistering id
  | .inSequence h => Closure.within_inSequence fun call hcall => (h call hcall).within n

/-- Nor does a step of a bench. -/
theorem Step.OnBench.within {s : Step} (h : s.OnBench) (n : Nat) : s.Within n :=
  match h with
  | .plain hs => hs n
  | .saving _ hs => hs.within n
  | .expose _ _ _ h => h.within n
  | .register _ _ h => h.within n
  | .scoped _ _ h hs hk =>
    ⟨h.within n, Program.within_steps (fun m _ s hmem => (hs s hmem).within m) fun m _ => hk m⟩
  | .scopedName _ hs hk =>
    Program.within_steps (fun m _ s hmem => (hs s hmem).within m) fun m _ => hk m
  | .cell _ _ _ hrules hother => fun m _ => Handler.within_ofRules
      (fun name rule hrule s hs => (hrules name rule hrule s hs).within m)
      fun s hs => (hother s hs).within m

end

end ClosureBridge
