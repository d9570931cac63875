import ClosureBridge.Proofs.Lambda.Custody
import Mathlib.Data.Multiset.AddSub
import Mathlib.Data.Multiset.Count

/-!
# References taken and given back

Some operations of an interpreter answer with a reference that has to be given back. An interpreter
is equipped with an account of them: every such reference that is not missing is taken, and every
one that is given back is given. What the host holds at any time is then what was taken and has not
been given since, and a computation is told by what it starts and ends with in hand, beside what the
unreleased lambdas own.

## Main definitions

* `Holding`, `Move`, `Move.outstanding`: references, and what is held after some were taken and
  given back.
* `Counted`, `Code`, `Code.counted`: an interpreter with an account of its references.
* `Lambda.owned`: the callables of the unreleased lambdas.
* `Owing`, `Carries`: what is held in a state, and what a computation has in hand.
* `Settles`, `Aside`: a computation that gives back all it takes, and one that takes nothing.

## Main statements

* `Move.count_taken`: what was taken was given back or is held.
* `Carries.bind`: computations one after the other.
* `Carries.lending`, `Carries.taking`, `Carries.giving`: operations of the interpreter.
-/

namespace ClosureBridge

/-! ### What is held -/

/-- A reference to an object of an interpreter. -/
structure Holding where
  machine : MachineId
  object : Ref
  deriving DecidableEq

/-- A reference is taken, or given back. -/
inductive Move where
  | taken (h : Holding)
  | given (h : Holding)
  deriving DecidableEq

namespace Move

/-- What is held after a move, unless a reference is given back that is not held. -/
def apply (held : Multiset Holding) : Move → Option (Multiset Holding)
  | taken h => some (h ::ₘ held)
  | given h => if h ∈ held then some (held.erase h) else none

/-- What is held after moves, unless a reference was given back that was not held. -/
def outstanding (moves : List Move) : Option (Multiset Holding) :=
  moves.foldlM apply 0

theorem outstanding_append_singleton (moves : List Move) (move : Move) :
    outstanding (moves ++ [move]) = (outstanding moves).bind fun held => apply held move := by
  rw [outstanding, List.foldlM_append]
  refine congrArg (Option.bind _) (funext fun held => ?_)
  rw [List.foldlM_cons]
  cases apply held move <;> rfl

theorem outstanding_taken {moves : List Move} {held : Multiset Holding}
    (h : outstanding moves = some held) (r : Holding) :
    outstanding (moves ++ [taken r]) = some (r ::ₘ held) := by
  rw [outstanding_append_singleton, h, Option.bind_some, apply]

theorem outstanding_given {moves : List Move} {held : Multiset Holding} {r : Holding}
    (h : outstanding moves = some (r ::ₘ held)) :
    outstanding (moves ++ [given r]) = some held := by
  rw [outstanding_append_singleton, h, Option.bind_some, apply,
    if_pos (Multiset.mem_cons_self r held), Multiset.erase_cons_head]

/-- What was taken was given back or is held. -/
theorem count_taken {moves : List Move} {held : Multiset Holding}
    (h : outstanding moves = some held) (r : Holding) :
    moves.count (taken r) = moves.count (given r) + held.count r := by
  induction moves using List.reverseRecOn generalizing held with
  | nil =>
    cases h
    rfl
  | append_singleton moves move ih =>
    rw [outstanding_append_singleton] at h
    obtain ⟨before, hbefore, hmove⟩ := Option.bind_eq_some_iff.mp h
    have hcount := ih hbefore
    simp only [List.count_append, List.count_singleton]
    cases move with
    | taken r' =>
      cases hmove
      by_cases hr : r = r'
      · subst hr
        simp [hcount, Nat.add_assoc]
      · simp [hcount, Multiset.count_cons_of_ne hr, Ne.symm hr]
    | given r' =>
      rw [apply] at hmove
      split at hmove
      · next hmem =>
        cases hmove
        by_cases hr : r = r'
        · subst hr
          have hpos := Multiset.count_pos.mpr hmem
          simp [hcount, Multiset.count_erase_self]
          omega
        · simp [hcount, Multiset.count_erase_of_ne hr, Ne.symm hr]
      · cases hmove

/-- What an answer that has to be given back puts in hand. -/
def worth (m : MachineId) : Option Ref → Multiset Holding
  | none => 0
  | some r => {⟨m, r⟩}

/-- The moves of an answer that has to be given back. -/
def takes (m : MachineId) : Option Ref → List Move
  | none => []
  | some r => [taken ⟨m, r⟩]

/-- The moves of giving a reference back. -/
def gives (m : MachineId) : Option Ref → List Move
  | none => []
  | some r => [given ⟨m, r⟩]

theorem outstanding_takes {moves : List Move} {held : Multiset Holding}
    (h : outstanding moves = some held) (m : MachineId) (r : Option Ref) :
    outstanding (moves ++ takes m r) = some (worth m r + held) := by
  cases r with
  | none => rw [takes, List.append_nil, worth, Multiset.zero_add, h]
  | some r => rw [takes, outstanding_taken h, worth, Multiset.singleton_add]

theorem outstanding_gives {moves : List Move} {held : Multiset Holding} {m : MachineId}
    {r : Option Ref} (h : outstanding moves = some (worth m r + held)) :
    outstanding (moves ++ gives m r) = some held := by
  cases r with
  | none => rw [gives, List.append_nil, h, worth, Multiset.zero_add]
  | some r =>
    rw [worth, Multiset.singleton_add] at h
    exact outstanding_given h

end Move

/-! ### Interpreters with an account -/

/-- What interpreters keep, with the references that the host has taken and given back. -/
structure Counted (ι : Type) where
  outside : ι
  moves : List Move := []

section

variable {ι : Type}

/-- An operation with the moves of its answer. -/
def Quiet.counting {α : Type} (q : Quiet ι α) (moves : α → List Move) : Quiet (Counted ι) α :=
  fun d s =>
    let (a, outside) := ReaderT.run q d s.outside
    (a, { outside, moves := s.moves ++ moves a })

/-- An operation whose answer need not be given back. -/
def Quiet.lending {α : Type} (q : Quiet ι α) : Quiet (Counted ι) α :=
  q.counting fun _ => []

/-- What running source does. -/
structure Code (ι : Type) where
  run : MachineId → String → Mode → Option Ref → Exec (World (Counted ι)) (Option Ref)
  runSimple : MachineId → String → Exec (World (Counted ι)) Bool

/-- Add moves to the account. -/
def World.record (moves : List Move) : Exec (World (Counted ι)) Unit :=
  modify fun w => { w with
    outside := { w.outside with moves := w.outside.moves ++ moves } }

/-- Interpreters with an account of their references, over any interpreters and any code that
running source comes to. Texts, callables, compiled code and the results of source have to be given
back. -/
def Code.counted (base : MachineId → Interpreter ι) (X : Code ι) (m : MachineId) :
    Interpreter (Counted ι) where
  parseTuple args format := ((base m).parseTuple args format).lending
  buildValue value := ((base m).buildValue value).lending
  newText text := ((base m).newText text).counting fun r => Move.takes m r.toOption.join
  newCallable descriptor self := ((base m).newCallable descriptor self).counting (Move.takes m)
  textOf object := ((base m).textOf object).lending
  strOf object := ((base m).strOf object).lending
  reprOf object := ((base m).reprOf object).lending
  incref object := ((base m).incref object).lending
  decref object := ((base m).decref object).counting fun _ => Move.gives m object
  mainDict := (base m).mainDict.lending
  newDict := (base m).newDict.lending
  builtins := (base m).builtins.lending
  dictGet scope name := ((base m).dictGet scope name).lending
  dictSet scope name value := ((base m).dictSet scope name value).lending
  getAttr object name := ((base m).getAttr object name).lending
  setAttr object name value := ((base m).setAttr object name value).lending
  compile source name mode := ((base m).compile source name mode).counting (Move.takes m)
  errorOccurred := (base m).errorOccurred.lending
  printError := (base m).printError.lending
  clearError := (base m).clearError.lending
  raiseRuntimeError message := ((base m).raiseRuntimeError message).lending
  ensureStarted := (base m).ensureStarted.lending
  runString source mode scope := do
    let r ← X.run m source mode scope
    World.record (Move.takes m r)
    return r
  runSimple := X.runSimple m

end

/-! ### What the lambdas own -/

namespace Lambda

/-- The reference that a lambda owns until it is released. -/
def owned? (l : Lambda) : Option Holding :=
  l.descriptor.map fun _ => ⟨l.machine, l.callable⟩

/-- The references that the unreleased lambdas own. -/
def owned (lambdas : Array Lambda) : Multiset Holding :=
  ↑(lambdas.toList.filterMap owned?)

/-- Lambdas are added, and some of those that were there are released. -/
def Follows (before after : Array Lambda) : Prop :=
  ∀ (n : Nat) (l : Lambda), before[n]? = some l →
    after[n]? = some l ∨ after[n]? = some { l with descriptor := none }

variable {lambdas before : Array Lambda} {l : Lambda} {n d : Nat}

theorem owned_push {r : Holding} (hl : l.owned? = some r) :
    owned (lambdas.push l) = r ::ₘ owned lambdas := by
  rw [owned, owned, Array.toList_push, List.filterMap_append, List.filterMap_cons_some hl,
    List.filterMap_nil, Multiset.cons_coe]
  exact Multiset.coe_eq_coe.mpr (List.perm_append_singleton _ _)

/-- A lambda that is released owns its callable no more. -/
theorem owned_release (hl : lambdas[n]? = some l) (hd : l.descriptor = some d) :
    owned lambdas = ⟨l.machine, l.callable⟩ ::ₘ
      owned (lambdas.setIfInBounds n { l with descriptor := none }) :=
  Multiset.coe_eq_coe.mpr (filterMap_release hl (by rw [owned?, hd, Option.map_some]) rfl)

namespace Follows

theorem refl : Follows lambdas lambdas := fun _ _ h => .inl h

theorem push (h : Follows before lambdas) (l : Lambda) : Follows before (lambdas.push l) := by
  intro n l' hl'
  have hlt {l'' : Lambda} (hl'' : lambdas[n]? = some l'') : (lambdas.push l)[n]? = some l'' := by
    have hn := (Array.getElem?_eq_some_iff.mp hl'').1
    rw [Array.getElem?_push, if_neg (Nat.ne_of_lt hn), hl'']
  exact (h n l' hl').imp hlt hlt

theorem release (h : Follows before lambdas) (hl : lambdas[n]? = some l) :
    Follows before (lambdas.setIfInBounds n { l with descriptor := none }) := by
  intro n' l' hl'
  by_cases hn : n = n'
  · subst hn
    have hset : (lambdas.setIfInBounds n { l with descriptor := none })[n]? =
        some { l with descriptor := none } :=
      Array.getElem?_setIfInBounds_self_of_lt (Array.getElem?_eq_some_iff.mp hl).1
    rw [hset]
    rcases h n l' hl' with h' | h'
    · cases h'.symm.trans hl
      exact .inr rfl
    · cases h'.symm.trans hl
      exact .inr rfl
  · rw [Array.getElem?_setIfInBounds_ne hn]
    exact h n' l' hl'

end Follows

end Lambda

/-! ### What a computation has in hand -/

section

variable {ι α β : Type}

/-- What is held is what the host has in hand and what the unreleased lambdas own. -/
def InHand (hand : Multiset Holding) (w : World (Counted ι)) : Prop :=
  Move.outstanding w.outside.moves = some (hand + Lambda.owned w.lambdas)

/-- A state that has been reached from another one, with references in hand. -/
structure Owing (w₀ : World (Counted ι)) (hand : Multiset Holding) (w : World (Counted ι)) :
    Prop where
  inHand : InHand hand w
  follows : Lambda.Follows w₀.lambdas w.lambdas
  moves : w₀.outside.moves <+: w.outside.moves

theorem Owing.of_eq {w₀ w v : World (Counted ι)} {hand : Multiset Holding} (h : Owing w₀ hand w)
    (hlambdas : v.lambdas = w.lambdas) (hmoves : v.outside.moves = w.outside.moves) :
    Owing w₀ hand v := by
  obtain ⟨hheld, hfollows, hprefix⟩ := h
  refine ⟨?_, ?_, ?_⟩
  · rwa [InHand, hmoves, hlambdas]
  · rwa [hlambdas]
  · rwa [hmoves]

/-- A computation that starts with references in hand, beside any others, and ends with those that
its result tells, or with none if it is stopped. -/
structure Carries (before : Multiset Holding) (after : α → Multiset Holding)
    (m : Exec (World (Counted ι)) α) : Prop where
  run : ∀ {w₀ : World (Counted ι)} {rest : Multiset Holding} {w : World (Counted ι)},
    Owing w₀ (before + rest) w →
      match m.run w with
      | (.ok a, v) => Owing w₀ (after a + rest) v
      | (.error _, v) => Owing w₀ rest v

/-- A computation that gives back all that it takes. -/
abbrev Settles (m : Exec (World (Counted ι)) α) : Prop :=
  Carries 0 (fun _ => 0) m

namespace Carries

variable {before : Multiset Holding} {between : α → Multiset Holding} {after : β → Multiset Holding}

theorem pure {a : α} (h : before = between a) :
    Carries before between (Pure.pure a : Exec (World (Counted ι)) α) := by
  subst h
  exact ⟨fun hw => hw⟩

theorem bind {m : Exec (World (Counted ι)) α} {f : α → Exec (World (Counted ι)) β}
    (hm : Carries before between m) (hf : ∀ a, Carries (between a) after (f a)) :
    Carries before after (m >>= f) := by
  refine ⟨fun {w₀ rest w} hw => ?_⟩
  have h := hm.run hw
  rw [Exec.run_bind]
  rcases hr : m.run w with ⟨_ | a, v⟩
  · rw [hr] at h
    exact h
  · rw [hr] at h
    exact (hf a).run h

theorem catchPanic {m : Exec (World (Counted ι)) α} (hm : Settles m) : Settles m.catchPanic := by
  refine ⟨fun {w₀ rest w} hw => ?_⟩
  have h := hm.run hw
  rw [Exec.run_catchPanic]
  rcases hr : m.run w with ⟨(_ | _) | a, v⟩
  · rw [hr] at h
    simpa using h
  · rw [hr] at h
    exact h
  · rw [hr] at h
    exact h

theorem get {hand : Multiset Holding} :
    Carries hand (fun _ => hand) (MonadState.get : Exec (World (Counted ι)) _) :=
  ⟨fun hw => hw⟩

/-- A change that leaves the lambdas and the account as they are. -/
theorem modifyGet {hand : Multiset Holding}
    {f : World (Counted ι) → α × World (Counted ι)} (hlambdas : ∀ w, (f w).2.lambdas = w.lambdas)
    (hmoves : ∀ w, (f w).2.outside.moves = w.outside.moves) :
    Carries hand (fun _ => hand) (MonadStateOf.modifyGet f : Exec (World (Counted ι)) α) := by
  exact ⟨fun hw => hw.of_eq (hlambdas _) (hmoves _)⟩

/-- An operation takes and gives back what its moves do. -/
theorem counting {before : Multiset Holding} {between : α → Multiset Holding} (q : Quiet ι α)
    {moves : α → List Move}
    (h : ∀ {l held} a, Move.outstanding l = some (before + held) →
      Move.outstanding (l ++ moves a) = some (between a + held)) :
    Carries before between (Quiet.run (q.counting moves)) := by
  refine ⟨fun hw => ?_⟩
  obtain ⟨hheld, hfollows, hprefix⟩ := hw
  rw [InHand, Multiset.add_assoc] at hheld
  refine ⟨?_, hfollows, hprefix.trans (List.prefix_append _ _)⟩
  rw [InHand, Multiset.add_assoc]
  exact h _ hheld

/-- An operation whose answer need not be given back. -/
theorem lending (q : Quiet ι α) (hand : Multiset Holding) :
    Carries hand (fun _ => hand) (Quiet.run q.lending) :=
  counting q fun _ h => by rwa [List.append_nil]

/-- An operation whose answer has to be given back. -/
theorem taking (q : Quiet ι α) (m : MachineId) (answer : α → Option Ref)
    (hand : Multiset Holding) :
    Carries hand (fun a => Move.worth m (answer a) + hand)
      (Quiet.run (q.counting fun a => Move.takes m (answer a))) :=
  counting q fun a h => by rw [Multiset.add_assoc, Move.outstanding_takes h]

/-- An operation that gives a reference back. -/
theorem giving (q : Quiet ι α) (m : MachineId) (r : Option Ref) (hand : Multiset Holding) :
    Carries (Move.worth m r + hand) (fun _ => hand)
      (Quiet.run (q.counting fun _ => Move.gives m r)) :=
  counting q fun _ h => Move.outstanding_gives (by rwa [Multiset.add_assoc] at h)

/-- An answer that is added to the account. -/
theorem record (m : MachineId) (r : Option Ref) (hand : Multiset Holding) :
    Carries hand (fun _ => Move.worth m r + hand)
      (World.record (Move.takes m r) : Exec (World (Counted ι)) Unit) := by
  refine ⟨fun hw => ?_⟩
  obtain ⟨hheld, hfollows, hprefix⟩ := hw
  refine ⟨?_, hfollows, hprefix.trans (List.prefix_append _ _)⟩
  rw [InHand, Multiset.add_assoc, Multiset.add_assoc, ← Multiset.add_assoc hand]
  exact Move.outstanding_takes hheld m r

end Carries

/-! ### Computations that leave the account alone -/

/-- A computation that neither changes the lambdas nor the account. -/
def Aside (m : Exec (World (Counted ι)) α) : Prop :=
  ∀ w, (m.run w).2.lambdas = w.lambdas ∧ (m.run w).2.outside.moves = w.outside.moves

theorem Aside.settles {m : Exec (World (Counted ι)) α} (h : Aside m) : Settles m := by
  refine ⟨fun {w₀ rest w} hw => ?_⟩
  have hv := hw.of_eq (h w).1 (h w).2
  rcases hr : m.run w with ⟨_ | a, v⟩
  · rw [hr] at hv
    simpa using hv
  · rw [hr] at hv
    exact hv

end

end ClosureBridge
