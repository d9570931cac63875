/-!
# Checked arithmetic on 64-bit integers

The integers of the scripting language are 64-bit words, and an operation whose exact result does
not fit is a failure of the program, not a wrap-around.

## Main definitions

* `Overflow`: which operation left the range, with its message.
* `Word.ofInt?`: the word for an integer in range.
* `Word.add?`, `Word.mul?`, `Word.neg?`, `Word.rem?`: the checked operations.
* `Word.mod?`: the floored modulus, computed by three checked steps.

## Main statements

* `Word.ofInt?_eq_some_iff`: exactly the integers in range are words.
-/

namespace ClosureBridge

/-- An operation whose exact result is out of the range that its result is kept in. -/
inductive Overflow where
  | add
  | multiply
  | negate
  | remainder
  deriving DecidableEq, Repr

namespace Overflow

/-- The message of the failure. -/
def message : Overflow → String
  | add => "attempt to add with overflow"
  | multiply => "attempt to multiply with overflow"
  | negate => "attempt to negate with overflow"
  | remainder => "attempt to calculate the remainder with overflow"

end Overflow

namespace Word

/-- The first integer above all words, two to the sixty-third. -/
def bound : Int := 9223372036854775808

/-- The word for an integer in range. -/
def ofInt? (n : Int) : Option Int64 :=
  if -bound ≤ n ∧ n < bound then some (Int64.ofInt n) else none

/-- The word for an exact result, or the failure of the operation that gave it. -/
def checked (failure : Overflow) (n : Int) : Except Overflow Int64 :=
  match ofInt? n with
  | some w => .ok w
  | none => .error failure

/-- The sum of two words. -/
def add? (x y : Int64) : Except Overflow Int64 :=
  checked .add (x.toInt + y.toInt)

/-- The product of two words. -/
def mul? (x y : Int64) : Except Overflow Int64 :=
  checked .multiply (x.toInt * y.toInt)

/-- The negative of a word. -/
def neg? (x : Int64) : Except Overflow Int64 :=
  checked .negate (-x.toInt)

/-- The remainder with the sign of the dividend. The divisor is not zero; the failure is the one
quotient that is out of range. -/
def rem? (x y : Int64) : Except Overflow Int64 :=
  match ofInt? (x.toInt.tdiv y.toInt) with
  | some _ => .ok (Int64.ofInt (x.toInt.tmod y.toInt))
  | none => .error .remainder

/-- The modulus with the sign of the divisor, as remainder, sum and remainder again. -/
def mod? (x y : Int64) : Except Overflow Int64 := do
  let r ← rem? x y
  let s ← add? r y
  rem? s y

theorem ofInt?_eq_some_iff {n : Int} {w : Int64} : ofInt? n = some w ↔ w.toInt = n := by
  unfold ofInt?
  split
  · rename_i h
    rw [Option.some.injEq]
    constructor
    · rintro rfl
      exact Int64.toInt_ofInt_of_le h.1 h.2
    · rintro rfl
      exact Int64.ofInt_toInt w
  · rename_i h
    constructor
    · simp
    · rintro rfl
      exact absurd ⟨Int64.le_toInt w, Int64.toInt_lt w⟩ h

@[simp] theorem ofInt?_toInt (w : Int64) : ofInt? w.toInt = some w :=
  ofInt?_eq_some_iff.2 rfl

end Word

end ClosureBridge
