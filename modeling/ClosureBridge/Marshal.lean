import ClosureBridge.Interpreter

/-!
# Arguments in, results out

## Main definitions

* `HostValue.crosses`, `HostValue.built`: a value is no text with a NUL in it, and is something to
  build an object from.
* `Marshal.parseIn`: the arguments of a call, by the input kind of the closure.
* `Marshal.prepare`: what the object for a result is built from, by the output kind of the closure.
* `Marshal.buildOut`: the object for a result.

## Main statements

* `Marshal.kind_of_arrange`: arguments that were put together have the kind asked for.
* `Marshal.prepare_eq_ok_iff`, `Marshal.prepare_eq_error_iff`: what an object is built from is the
  result in the output kind, unless there is no such result, or it is a text with a NUL in it.
-/

namespace ClosureBridge

namespace HostValue

/-- Whether a value is no text with a NUL in it. -/
def crosses : HostValue → Bool
  | text s => Image.crosses s
  | _ => true

/-- A value as something to build an object from. -/
def built : HostValue → Built
  | integer n => .long n
  | float v => .double v
  | text s => .text s
  | boolean b => .boolean b
  | object r => .object r

theorem crosses_eq_false_iff {v : HostValue} :
    v.crosses = false ↔ ∃ s, v = text s ∧ '\x00' ∈ s.toList := by
  cases v <;> simp [crosses, Image.crosses]

end HostValue

namespace Marshal

variable {ι : Type}

/-- Make an error pending. -/
def raise (I : Interpreter ι) (e : ArgumentError) : Quiet ι Unit :=
  I.raiseRuntimeError (crossing e.message)

/-- What was unpacked, as arguments of a kind. -/
def arrange : InputKind → Unpacked → Option Arguments
  | .integer, .long n => some (.integer n)
  | .boolean, .long n => some (.boolean (n != 0))
  | .float, .double v => some (.float v)
  | .text, .text s => some (.text s)
  | .object, .objects [a] => some (.object a)
  | .objectPair, .objects [a, b] => some (.pair a b)
  | .objectTriple, .objects [a, b, c] => some (.triple a b c)
  | _, _ => none

/-- Unpack an argument tuple by an input kind. When the interpreter accepts the tuple and its
parts still do not fit, no error is pending yet, so one is raised. -/
def parseIn (I : Interpreter ι) (args : Option Ref) (kind : InputKind) :
    Quiet ι (Except ArgumentError Arguments) := do
  match ← I.parseTuple args kind.format with
  | none => return .error (.mismatch kind)
  | some parts =>
    match arrange kind parts with
    | some arguments => return .ok arguments
    | none =>
      raise I (.mismatch kind)
      return .error (.mismatch kind)

/-- A value as something to build an object from. The words of the host and of the interpreter
have the same size, so only a NUL in a text can be in the way. -/
def toBuilt : HostValue → Except ArgumentError Built
  | .integer n => .ok (.long n)
  | .float v => .ok (.double v)
  | .boolean b => .ok (.boolean b)
  | .object r => .ok (.object r)
  | .text s => if Image.crosses s then .ok (.text s) else .error .interiorNul

/-- A value in a slot of a kind, as something to build an object from. -/
def prepare (v : HostValue) (target : OutputKind) : Except ArgumentError Built :=
  match v.coerce target with
  | none => .error (.coercion v.kind target)
  | some v => toBuilt v

theorem toBuilt_eq (v : HostValue) :
    toBuilt v = if v.crosses then .ok v.built else .error .interiorNul := by
  cases v <;> rfl

/-- An object is built from the value in the kind of the slot. -/
theorem prepare_eq_ok_iff {v : HostValue} {target : OutputKind} {built : Built} :
    prepare v target = .ok built ↔
      ∃ u, v.coerce target = some u ∧ u.crosses = true ∧ built = u.built := by
  unfold prepare
  cases v.coerce target with
  | none => simp
  | some u =>
    dsimp only
    rw [toBuilt_eq]
    cases hc : u.crosses with
    | true => simpa [hc] using eq_comm
    | false => simp [hc]

/-- There is nothing to build from when the value has no such kind, or is then a text with a NUL. -/
theorem prepare_eq_error_iff {v : HostValue} {target : OutputKind} {e : ArgumentError} :
    prepare v target = .error e ↔
      (v.coerce target = none ∧ e = .coercion v.kind target) ∨
        ∃ s, v.coerce target = some (.text s) ∧ '\x00' ∈ s.toList ∧ e = .interiorNul := by
  unfold prepare
  cases v.coerce target with
  | none => simpa using eq_comm
  | some u =>
    dsimp only
    rw [toBuilt_eq]
    cases hc : u.crosses with
    | true =>
      have hclear : ∀ s, u = .text s → '\x00' ∉ s.toList := fun s hs hmem => by
        rw [HostValue.crosses_eq_false_iff.mpr ⟨s, hs, hmem⟩] at hc
        cases hc
      simpa using fun s hs hmem => absurd hmem (hclear s hs)
    | false =>
      obtain ⟨s, rfl, hmem⟩ := HostValue.crosses_eq_false_iff.mp hc
      simpa [hmem] using eq_comm

/-- Build the object for a result. A result that cannot be represented leaves an error pending. -/
def buildOut (I : Interpreter ι) (v : HostValue) (target : OutputKind) :
    Quiet ι (Option Ref) := do
  match prepare v target with
  | .ok built => I.buildValue built
  | .error e =>
    raise I e
    return none

/-- Build the object that stands for no result. -/
def buildNone (I : Interpreter ι) : Quiet ι (Option Ref) :=
  I.buildValue .none

theorem kind_of_arrange {kind : InputKind} {parts : Unpacked} {args : Arguments}
    (h : arrange kind parts = some args) : args.kind = kind := by
  unfold arrange at h
  split at h <;> first | (rw [Option.some.injEq] at h; subst h; rfl) | cases h

end Marshal

end ClosureBridge
