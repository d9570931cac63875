import ClosureBridge.Bench.Trial
import ClosureBridge.Binding
import ClosureBridge.Proofs.Session.Keeps
import Mathlib.Data.List.Induction

/-!
# Which interpreters are started

An interpreter gets bound in three ways: it is there and is installed, it is bound from an image, or
it is loaded by a configuration, which may ask to start it. The interpreter that is bound first
stays. So whether the bound interpreter has been started is settled by the call that bound it: a
later load hands the interpreter out and does not start it, whatever its configuration asks.

## Main definitions

* `Watched`, `Binding.watched`: interpreters with a record of the calls that start them.
* `Binding.Entry`, `Binding.after`: the calls that may bind an interpreter, and the state after
  some.
* `Binding.Binds`: the call that binds an interpreter.

## Main statements

* `Binding.run_perform_of_bound`: once an interpreter is bound no call does anything.
* `Binding.exists_binds`: the state after calls, by the one that binds.
* `Binding.load_starts_iff`: which interpreters a load returns started.
-/

namespace ClosureBridge

/-- What interpreters keep, with the interpreters that were told to start, in order. -/
structure Watched (ι : Type) where
  outside : ι
  started : List MachineId := []

variable {ι α : Type}

/-- A state with a record of the interpreters that were told to start. -/
def World.watched (w : World ι) (started : List MachineId) : World (Watched ι) :=
  { w with outside := ⟨w.outside, started⟩ }

/-- A state without the record. -/
def World.unwatched (w : World (Watched ι)) : World ι :=
  { w with outside := w.outside.outside }

/-- An operation beside the record. -/
def Quiet.unnoted (q : Quiet ι α) : Quiet (Watched ι) α := fun d s =>
  let (a, outside) := ReaderT.run q d s.outside
  (a, { s with outside })

/-- A computation beside the record. -/
def Exec.unnoted (x : Exec (World ι) α) : Exec (World (Watched ι)) α :=
  ExceptT.mk fun w =>
    let (r, v) := x.run w.unwatched
    (r, v.watched w.outside.started)

namespace Binding

/-- Interpreters with a record of the calls that start them. -/
def watched (machine : MachineId → Interpreter ι) (m : MachineId) : Interpreter (Watched ι) where
  parseTuple args format := ((machine m).parseTuple args format).unnoted
  buildValue value := ((machine m).buildValue value).unnoted
  newText text := ((machine m).newText text).unnoted
  newCallable descriptor self := ((machine m).newCallable descriptor self).unnoted
  textOf object := ((machine m).textOf object).unnoted
  strOf object := ((machine m).strOf object).unnoted
  reprOf object := ((machine m).reprOf object).unnoted
  incref object := ((machine m).incref object).unnoted
  decref object := ((machine m).decref object).unnoted
  mainDict := (machine m).mainDict.unnoted
  newDict := (machine m).newDict.unnoted
  builtins := (machine m).builtins.unnoted
  dictGet scope name := ((machine m).dictGet scope name).unnoted
  dictSet scope name value := ((machine m).dictSet scope name value).unnoted
  getAttr object name := ((machine m).getAttr object name).unnoted
  setAttr object name value := ((machine m).setAttr object name value).unnoted
  compile source name mode := ((machine m).compile source name mode).unnoted
  errorOccurred := (machine m).errorOccurred.unnoted
  printError := (machine m).printError.unnoted
  clearError := (machine m).clearError.unnoted
  raiseRuntimeError message := ((machine m).raiseRuntimeError message).unnoted
  ensureStarted := do
    (machine m).ensureStarted.unnoted
    modify fun s => { s with started := s.started ++ [m] }
  runString source mode scope := ((machine m).runString source mode scope).unnoted
  runSimple source := ((machine m).runSimple source).unnoted

/-- A call that may bind an interpreter. -/
inductive Entry where
  | install (m : MachineId)
  | bind (image : Image)
  | load (config : RuntimeConfig) (environment : Option String) (shelf : Shelf)

/-- Whether a call asks to start the interpreter. -/
def Entry.starts : Entry → Bool
  | .load config _ _ => config.autoStart
  | _ => false

/-- Make a call and leave its answer. -/
def Entry.perform (machine : MachineId → Interpreter ι)
    (resolve : Image → Exec (World ι) (Except BindError MachineId)) : Entry → Exec (World ι) Unit
  | .install m => do let _ ← Binding.install m
  | .bind image => do let _ ← ofImage resolve image
  | .load config environment shelf => do
    let _ ← Binding.load machine resolve config environment shelf

/-- The state after calls. -/
def after (machine : MachineId → Interpreter ι)
    (resolve : Image → Exec (World ι) (Except BindError MachineId)) (entries : List Entry)
    (w : World ι) : World ι :=
  entries.foldl (fun w e => ((e.perform machine resolve).run w).2) w

/-- Among calls, the one that binds an interpreter: none is bound before it, and the interpreter is
bound from then on. -/
def Binds (machine : MachineId → Interpreter ι)
    (resolve : Image → Exec (World ι) (Except BindError MachineId)) (w : World ι)
    (entries : List Entry) (e : Entry) (m : MachineId) : Prop :=
  ∃ n, entries[n]? = some e ∧ (after machine resolve (entries.take n) w).bound = none ∧
    ∀ k > n, (after machine resolve (entries.take k) w).bound = some m

section

variable {machine : MachineId → Interpreter ι}
  {resolve : Image → Exec (World ι) (Except BindError MachineId)}

theorem after_append_singleton (entries : List Entry) (e : Entry) (w : World ι) :
    after machine resolve (entries ++ [e]) w =
      ((e.perform machine resolve).run (after machine resolve entries w)).2 := by
  rw [after, List.foldl_append]
  rfl

/-- The state after a computation whose answer is left. -/
theorem run_left (x : Exec (World ι) α) (w : World ι) :
    ((do let _ ← x : Exec (World ι) Unit).run w).2 = (x.run w).2 := by
  rw [Exec.run_bind]
  rcases x.run w with ⟨_ | _, v⟩ <;> rfl

theorem run_install_of_unbound {w : World ι} (hb : w.bound = none) (m : MachineId) :
    (install m).run w = (.ok true, { w with bound := some m }) := by
  rw [install, Exec.run_modifyGet, hb]

theorem run_ofImage_of_bound {w : World ι} {m : MachineId} (hb : w.bound = some m)
    (image : Image) : (ofImage resolve image).run w = (.ok (.ok ()), w) := by
  rw [ofImage, isBound, bind_assoc, Exec.run_get_bind, hb]
  rfl

theorem run_load_of_bound {w : World ι} {m : MachineId} (hb : w.bound = some m)
    (config : RuntimeConfig) (environment : Option String) (shelf : Shelf) :
    (load machine resolve config environment shelf).run w = (.ok (.ok m), w) := by
  rw [load, Exec.run_get_bind, hb]
  rfl

/-- **Once an interpreter is bound no call does anything.** -/
theorem run_perform_of_bound {w : World ι} {m : MachineId} (hb : w.bound = some m) (e : Entry) :
    ((e.perform machine resolve).run w).2 = w := by
  cases e with
  | install m' =>
    rw [Entry.perform, run_left, install, Exec.run_modifyGet, hb]
  | bind image => rw [Entry.perform, run_left, run_ofImage_of_bound hb]
  | load config environment shelf => rw [Entry.perform, run_left, run_load_of_bound hb]

/-- Only one call binds. -/
theorem Binds.eq {w : World ι} {entries : List Entry} {e e' : Entry} {m m' : MachineId}
    (h : Binds machine resolve w entries e m) (h' : Binds machine resolve w entries e' m') :
    e = e' := by
  obtain ⟨n, he, hn, hafter⟩ := h
  obtain ⟨n', he', hn', hafter'⟩ := h'
  rcases Nat.lt_trichotomy n n' with hlt | rfl | hlt
  · rw [hafter n' hlt] at hn'
    cases hn'
  · exact Option.some.inj (he.symm.trans he')
  · rw [hafter' n hlt] at hn
    cases hn

end

/-! ### Calls with a record -/

section

variable {resolve : Image → Exec (World ι) (Except BindError MachineId)} {w : World (Watched ι)}

theorem run_ofImage_of_unbound
    (hresolve : ∀ image w, ((resolve image).run w).2.bound = w.bound) (hb : w.bound = none)
    (image : Image) : ∃ r v, (ofImage (fun i => (resolve i).unnoted) image).run w = (r, v) ∧
      v.outside.started = w.outside.started ∧
      (r = .ok (.ok ()) ∧ v.bound.isSome ∨ r ≠ .ok (.ok ()) ∧ v.bound = none) := by
  have hsame : ((resolve image).run w.unwatched).2.bound = none :=
    (hresolve image w.unwatched).trans hb
  rw [ofImage, isBound, bind_assoc, Exec.run_get_bind, hb, pure_bind, Option.isSome_none,
    if_neg Bool.false_ne_true, Exec.run_bind]
  have hunnoted : ((resolve image).unnoted).run w =
      (((resolve image).run w.unwatched).1,
        ((resolve image).run w.unwatched).2.watched w.outside.started) := rfl
  rw [hunnoted]
  rcases hr : (resolve image).run w.unwatched with ⟨_ | _ | m, v⟩ <;> rw [hr] at hsame
  · exact ⟨_, _, rfl, rfl, .inr ⟨nofun, hsame⟩⟩
  · exact ⟨_, _, rfl, rfl, .inr ⟨nofun, hsame⟩⟩
  · have hinstall := run_install_of_unbound (w := v.watched w.outside.started) hsame m
    exact ⟨_, _, Exec.run_bind_of_ok hinstall, rfl, .inl ⟨rfl, rfl⟩⟩

/-- A load binds the interpreter that it returns, and starts it when it is asked to. -/
theorem run_load_of_unbound (machine : MachineId → Interpreter ι)
    (hresolve : ∀ image w, ((resolve image).run w).2.bound = w.bound) (hb : w.bound = none)
    (config : RuntimeConfig) (environment : Option String) (shelf : Shelf) :
    ∃ r v, (load (watched machine) (fun i => (resolve i).unnoted) config environment shelf).run w =
        (r, v) ∧
      ((∃ m, r = .ok (.ok m) ∧ v.bound = some m ∧
          v.outside.started = w.outside.started ++ if config.autoStart then [m] else []) ∨
        (∀ m, r ≠ .ok (.ok m)) ∧ v.bound = none ∧
          v.outside.started = w.outside.started) := by
  rw [load, Exec.run_get_bind, hb]
  cases locate config environment shelf with
  | error e => exact ⟨_, w, rfl, .inr ⟨nofun, hb, rfl⟩⟩
  | ok image =>
    obtain ⟨r, v, hrun, hstarted, hr⟩ := run_ofImage_of_unbound hresolve hb image
    dsimp only
    rw [Exec.run_bind, hrun]
    rcases hr with ⟨rfl, hv⟩ | ⟨hr, hv⟩
    · obtain ⟨m, hm⟩ := Option.isSome_iff_exists.mp hv
      have hcurrent : (Dispatch.current : Exec (World (Watched ι)) _).run v = (.ok (.ok m), v) := by
        rw [Dispatch.current, Exec.run_get_bind, hm]
        rfl
      dsimp only
      rw [Exec.run_bind_of_ok hcurrent]
      dsimp only
      cases config.autoStart with
      | false => exact ⟨_, v, rfl, .inl ⟨m, rfl, hm, by simp [hstarted]⟩⟩
      | true => exact ⟨_, _, rfl, .inl ⟨m, rfl, hm, congrArg (· ++ [m]) hstarted⟩⟩
    · rcases r with _ | _ | _
      · exact ⟨_, v, rfl, .inr ⟨nofun, hv, hstarted⟩⟩
      · exact ⟨_, v, rfl, .inr ⟨nofun, hv, hstarted⟩⟩
      · exact absurd rfl hr

/-- A call over an interpreter that is not bound binds one, and then starts it when it is asked to,
or does nothing. -/
theorem run_perform_of_unbound (machine : MachineId → Interpreter ι)
    (hresolve : ∀ image w, ((resolve image).run w).2.bound = w.bound) (hb : w.bound = none)
    (e : Entry) :
    ∃ v, ((e.perform (watched machine) fun i => (resolve i).unnoted).run w).2 = v ∧
      (v.bound = none ∧ v.outside.started = w.outside.started ∨
        ∃ m, v.bound = some m ∧
          v.outside.started = w.outside.started ++ if e.starts then [m] else []) := by
  refine ⟨_, rfl, ?_⟩
  cases e with
  | install m =>
    rw [Entry.perform, run_left, run_install_of_unbound hb]
    exact .inr ⟨m, rfl, (List.append_nil _).symm⟩
  | bind image =>
    obtain ⟨r, v, hrun, hstarted, hr⟩ := run_ofImage_of_unbound hresolve hb image
    rw [Entry.perform, run_left, hrun]
    rcases hr with ⟨-, hv⟩ | ⟨-, hv⟩
    · obtain ⟨m, hm⟩ := Option.isSome_iff_exists.mp hv
      exact .inr ⟨m, hm, hstarted.trans (List.append_nil _).symm⟩
    · exact .inl ⟨hv, hstarted⟩
  | load config environment shelf =>
    obtain ⟨r, v, hrun, hr⟩ :=
      run_load_of_unbound machine hresolve hb config environment shelf
    rw [Entry.perform, run_left, hrun]
    rcases hr with ⟨m, -, hm, hstarted⟩ | ⟨-, hv, hstarted⟩
    · exact .inr ⟨m, hm, hstarted⟩
    · exact .inl ⟨hv, hstarted⟩

/-- **Whether the interpreter has been started is settled by the call that bound it.** After any
calls, either none is bound and none has been started, or one of the calls has bound the
interpreter that is bound, which has been started once when that call asked for it, and otherwise
not. -/
theorem exists_binds (machine : MachineId → Interpreter ι)
    (hresolve : ∀ image w, ((resolve image).run w).2.bound = w.bound)
    (hb : w.bound = none) (entries : List Entry) :
    ∃ v, after (watched machine) (fun i => (resolve i).unnoted) entries w = v ∧
      (v.bound = none ∧ v.outside.started = w.outside.started ∨
        ∃ e m, v.bound = some m ∧
          Binds (watched machine) (fun i => (resolve i).unnoted) w entries e m ∧
          v.outside.started = w.outside.started ++ if e.starts then [m] else []) := by
  refine ⟨_, rfl, ?_⟩
  induction entries using List.reverseRecOn with
  | nil => exact .inl ⟨hb, rfl⟩
  | append_singleton entries e ih =>
    have htake : ∀ k ≤ entries.length, (entries ++ [e]).take k = entries.take k := fun k hk =>
      List.take_append_of_le_length hk
    have hall : ∀ k > entries.length, (entries ++ [e]).take k = entries ++ [e] := fun k hk =>
      List.take_of_length_le (by simpa using Nat.succ_le_of_lt hk)
    rcases ih with ⟨hnone, hstarted⟩ | ⟨e', m, hm, ⟨n, he', hn, hafter⟩, hstarted⟩
    · obtain ⟨v, hrun, hv⟩ := run_perform_of_unbound machine hresolve hnone e
      rw [after_append_singleton, hrun]
      rcases hv with ⟨hv, hv'⟩ | ⟨m, hm, hv'⟩
      · exact .inl ⟨hv, hv'.trans hstarted⟩
      · refine .inr ⟨e, m, hm, ⟨entries.length, by simp, ?_, fun k hk => ?_⟩, ?_⟩
        · rwa [htake _ (Nat.le_refl _), List.take_length]
        · rw [hall k hk, after_append_singleton, hrun]
          exact hm
        · rw [hv', hstarted]
    · have hsame : after (watched machine) (fun i => (resolve i).unnoted) (entries ++ [e]) w =
          after (watched machine) (fun i => (resolve i).unnoted) entries w := by
        rw [after_append_singleton, run_perform_of_bound hm]
      have hlt : n < entries.length := (List.getElem?_eq_some_iff.mp he').1
      rw [hsame]
      refine .inr ⟨e', m, hm, ⟨n, ?_, ?_, fun k hk => ?_⟩, hstarted⟩
      · rwa [List.getElem?_append_left hlt]
      · rwa [htake n (Nat.le_of_lt hlt)]
      · rcases Nat.lt_or_ge entries.length k with hk' | hk'
        · rw [hall k hk', hsame]
          exact hm
        · rw [htake k hk']
          exact hafter k hk

end

/-- **Which interpreters a load returns started.** After any calls over any interpreters, images and
configurations, the interpreter that a load returns is the one that is bound, and it has been told
to start exactly when the call that bound it, this load or one before, was a load that asked for
it. -/
theorem load_starts_iff {machine : MachineId → Interpreter ι}
    {resolve : Image → Exec (World ι) (Except BindError MachineId)}
    (hresolve : ∀ image w, ((resolve image).run w).2.bound = w.bound) {w : World ι}
    (hb : w.bound = none) (entries : List Entry) {config : RuntimeConfig}
    {environment : Option String} {shelf : Shelf} {m : MachineId} {v : World (Watched ι)}
    (hload : (load (watched machine) (fun i => (resolve i).unnoted) config environment shelf).run
      (after (watched machine) (fun i => (resolve i).unnoted) entries (w.watched [])) =
        (.ok (.ok m), v)) :
    v.bound = some m ∧
      (m ∈ v.outside.started ↔ ∃ e, e.starts ∧
        Binds (watched machine) (fun i => (resolve i).unnoted) (w.watched [])
          (entries ++ [.load config environment shelf]) e m) := by
  have hw : (w.watched []).bound = none := hb
  have hlast : after (watched machine) (fun i => (resolve i).unnoted)
      (entries ++ [.load config environment shelf]) (w.watched []) = v := by
    rw [after_append_singleton, Entry.perform, run_left, hload]
  have hv : v.bound = some m := by
    cases hu : (after (watched machine) (fun i => (resolve i).unnoted) entries
      (w.watched [])).bound with
    | none =>
      obtain ⟨r, v', hrun, hr⟩ :=
        run_load_of_unbound machine hresolve hu config environment shelf
      obtain ⟨rfl, rfl⟩ := Prod.mk.inj (hrun.symm.trans hload)
      rcases hr with ⟨m', hm', hv, -⟩ | ⟨hr, -⟩
      · cases hm'
        exact hv
      · exact absurd rfl (hr m)
    | some m' =>
      rw [run_load_of_bound hu] at hload
      cases hload
      exact hu
  refine ⟨hv, ?_⟩
  obtain ⟨v', hafter, hv'⟩ := exists_binds machine hresolve hw
    (entries ++ [.load config environment shelf])
  obtain rfl := hafter.symm.trans hlast
  rcases hv' with ⟨hnone, -⟩ | ⟨e, m', hm', hbinds, hstarted⟩
  · rw [hnone] at hv
    cases hv
  · obtain rfl : m' = m := Option.some.inj (hm'.symm.trans hv)
    rw [hstarted]
    constructor
    · intro hm
      refine ⟨e, ?_, hbinds⟩
      by_contra he
      rw [if_neg he] at hm
      cases hm
    · rintro ⟨e', he', hbinds'⟩
      rw [if_pos (hbinds.eq hbinds' ▸ he')]
      exact List.mem_singleton_self m'

theorem bound_resolve (image : Image) (w : Session) :
    ((Bench.resolve image).run w).2.bound = w.bound := by
  rw [Bench.resolve, Exec.run_modifyGet]
  cases Native.Symbols.resolve image <;> rfl

/-- A complete image that is found by a usual name. -/
def stocked : Shelf :=
  { named := ⟨[("libpython3.so", Native.Symbols.exported)]⟩ }

/-- A load that asks to start the interpreter and comes first returns it started. -/
theorem load_starts_iff_first :
    ∃ v, (load (watched (Recursion.level 0).machine) (fun i => (Bench.resolve i).unnoted) {} none
        stocked).run (Trial.fresh.watched []) = (.ok (.ok (.native 0 true)), v) ∧
      .native 0 true ∈ v.outside.started := by
  have hload : (load (watched (Recursion.level 0).machine) (fun i => (Bench.resolve i).unnoted) {}
      none stocked).run (Trial.fresh.watched []) = (.ok (.ok (.native 0 true)), _) := rfl
  refine ⟨_, hload, ?_⟩
  refine (load_starts_iff bound_resolve rfl [] hload).2.mpr ⟨_, rfl, 0, rfl, rfl, fun k hk => ?_⟩
  rw [List.nil_append, List.take_of_length_le hk]
  rfl

/-- A load that asks to start the interpreter does not start one that an earlier load has bound. -/
theorem not_load_always_starts :
    ¬∀ (entries : List Entry) (config : RuntimeConfig) (environment : Option String)
      (shelf : Shelf) (m : MachineId) (v : World (Watched Bench.Outside)),
      (load (watched (Recursion.level 0).machine) (fun i => (Bench.resolve i).unnoted) config
        environment shelf).run
          (after (watched (Recursion.level 0).machine) (fun i => (Bench.resolve i).unnoted) entries
            (Trial.fresh.watched [])) = (.ok (.ok m), v) →
      config.autoStart = true → m ∈ v.outside.started := by
  intro h
  cases h [.load { autoStart := false } none stocked] {} none stocked (.native 0 true) _ rfl rfl

end Binding

end ClosureBridge
