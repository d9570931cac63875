/-!
# Digits of any base up to sixteen

## Main definitions

* `Radix.digit?`: the value of a digit.
* `Radix.hexDigit`: the digit with a value.
* `Radix.number?`: the number that digits denote.

## Main statements

* `Radix.digit?_hexDigit`: a digit is read back.
-/

namespace ClosureBridge.Radix

/-- The value of a hexadecimal digit, in either case. -/
def digit? (c : Char) : Option Nat :=
  if '0' ≤ c ∧ c ≤ '9' then some (c.toNat - '0'.toNat)
  else if 'a' ≤ c ∧ c ≤ 'f' then some (c.toNat - 'a'.toNat + 10)
  else if 'A' ≤ c ∧ c ≤ 'F' then some (c.toNat - 'A'.toNat + 10)
  else none

/-- Whether a character is a digit of a base. -/
def isDigit (base : Nat) (c : Char) : Bool :=
  (digit? c).any (· < base)

/-- The digit with a value below sixteen, in upper case. -/
def hexDigit (n : Nat) : Char :=
  if n < 10 then Char.ofNat ('0'.toNat + n) else Char.ofNat ('A'.toNat + (n - 10))

/-- The number that digits denote after the digits of a number. -/
def continue? (base n : Nat) : List Char → Option Nat
  | [] => some n
  | c :: rest => do continue? base (base * n + (← digit? c)) rest

/-- The number that digits denote. -/
def number? (base : Nat) (digits : List Char) : Option Nat :=
  continue? base 0 digits

theorem digit?_hexDigit : ∀ n < 16, digit? (hexDigit n) = some n := by
  decide

end ClosureBridge.Radix
