/-!
# Computations that may call back into the host

Code of the host may panic, and a chain of calls may be longer than the budget of a run, or without
an end. Both end a computation, and both keep the state reached.

## Main definitions

* `Payload`, `Stop`: why a computation ended early.
* `Exec`: a computation over a state.
* `Exec.catchPanic`: a panic as a value.

## Main statements

* `Exec.run_catchPanic`: what `catchPanic` does on each outcome.
-/

namespace ClosureBridge

/-- What a panic carries. -/
inductive Payload where
  | text (message : String)
  /-- A payload that is no text. -/
  | other
  deriving DecidableEq, Repr

/-- Why a computation ended early. -/
inductive Stop where
  /-- Code of the host panicked. -/
  | panic (payload : Payload)
  /-- The calls nested deeper than the budget of the run, or something waits for itself. -/
  | exhausted
  deriving DecidableEq, Repr

/-- A computation over a state that may end early. -/
abbrev Exec (σ α : Type) := ExceptT Stop (StateM σ) α

namespace Exec

variable {σ α : Type}

/-- End the computation with a panic. -/
def panic (payload : Payload) : Exec σ α :=
  throw (.panic payload)

/-- End the computation for want of budget; one that would never end does so with any budget. -/
def exhausted : Exec σ α :=
  throw .exhausted

/-- Run a computation; a panic becomes a value. -/
def catchPanic (m : Exec σ α) : Exec σ (Except Payload α) :=
  ExceptT.mk fun s =>
    match m.run s with
    | (.ok a, s) => (.ok (.ok a), s)
    | (.error (.panic p), s) => (.ok (.error p), s)
    | (.error .exhausted, s) => (.error .exhausted, s)

/-- Run a computation and afterwards another, however the first ended; a panic goes on after
that. -/
def andFinally (m : Exec σ α) (after : Exec σ Unit) : Exec σ α := do
  match ← catchPanic m with
  | .ok a =>
    after
    pure a
  | .error p =>
    after
    panic p

theorem run_catchPanic (m : Exec σ α) (s : σ) :
    (catchPanic m).run s =
      match m.run s with
      | (.ok a, s) => (.ok (.ok a), s)
      | (.error (.panic p), s) => (.ok (.error p), s)
      | (.error .exhausted, s) => (.error .exhausted, s) := rfl

end Exec

end ClosureBridge
