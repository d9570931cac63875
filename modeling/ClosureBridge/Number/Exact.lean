import ClosureBridge.Number.Word

/-!
# The exact value of a float

A float is a sign, a whole significand and a power of two. What is taken from a float is taken
from these parts, so nothing is rounded on the way.

## Main definitions

* `Exact`: the value of a float, by parts.
* `Exact.ofFloat`: the parts of a float.
* `Exact.IsWhole`: nothing stands behind the point.
* `Exact.truncate?`, `Exact.floor?`: the integers that the value lies between.
* `Word.toFloat`, `Word.ofFloat?`, `Word.floorSaturating`: between words and floats.
-/

namespace ClosureBridge

/-- The value of a float. -/
inductive Exact where
  /-- No number. -/
  | nan
  /-- An infinity. -/
  | infinite (negative : Bool)
  /-- The number `significand * 2 ^ exponent`, negated or not. -/
  | finite (negative : Bool) (significand : Nat) (exponent : Int)
  deriving DecidableEq, Repr

namespace Exact

/-- A power of two. -/
def power (e : Nat) : Nat :=
  Nat.pow 2 e

/-- The value of a float: one sign bit, eleven exponent bits, fifty-two bits of significand. -/
def ofFloat (v : Float) : Exact :=
  let bits := v.toBits.toNat
  let negative := bits / power 63 % 2 = 1
  let biased : Nat := bits / power 52 % power 11
  let fraction : Nat := bits % power 52
  if biased = 2047 then if fraction = 0 then infinite negative else nan
  else if biased = 0 then finite negative fraction (-1074)
  else finite negative (power 52 + fraction) ((biased : Int) - 1075)

/-- A natural number with a sign. -/
def signed (negative : Bool) (n : Nat) : Int :=
  if negative then -n else n

/-- The value is a number with nothing behind the point. -/
def IsWhole : Exact → Prop
  | finite _ _ (.ofNat _) => True
  | finite _ m (.negSucc e) => m % power (e + 1) = 0
  | _ => False

instance : DecidablePred IsWhole
  | finite _ _ (.ofNat _) => inferInstanceAs (Decidable True)
  | finite _ m (.negSucc e) => inferInstanceAs (Decidable (m % power (e + 1) = 0))
  | nan => inferInstanceAs (Decidable False)
  | infinite _ => inferInstanceAs (Decidable False)

/-- A finite value without what stands behind the point. -/
def truncate? : Exact → Option Int
  | finite negative m (.ofNat e) => some (signed negative (m * power e))
  | finite negative m (.negSucc e) => some (signed negative (m / power (e + 1)))
  | _ => none

/-- The greatest integer not above a finite value. -/
def floor? : Exact → Option Int
  | finite negative m (.ofNat e) => some (signed negative (m * power e))
  | finite negative m (.negSucc e) => some (signed negative m / power (e + 1))
  | _ => none

end Exact

namespace Word

/-- The float nearest to a word. -/
def toFloat (w : Int64) : Float :=
  Float.ofInt w.toInt

/-- An integer taken from a float, moved to the nearest word when it is out of range; zero for what
is no number. -/
def saturating (part : Exact → Option Int) (v : Float) : Int64 :=
  match Exact.ofFloat v with
  | .nan => 0
  | .infinite negative => if negative then Int64.minValue else Int64.maxValue
  | value =>
    let n := (part value).getD 0
    if n < -bound then Int64.minValue
    else if bound ≤ n then Int64.maxValue
    else Int64.ofInt n

/-- The floor of a float as a word. -/
def floorSaturating : Float → Int64 :=
  saturating Exact.floor?

/-- A float without what stands behind the point, as a word. -/
def truncateSaturating : Float → Int64 :=
  saturating Exact.truncate?

/-- The word that a float denotes, if it denotes one. The range is compared among floats, where the
greatest word becomes the first number above all words. -/
def ofFloat? (v : Float) : Option Int64 :=
  if (Exact.ofFloat v).IsWhole ∧ toFloat Int64.minValue ≤ v ∧ v < toFloat Int64.maxValue then
    some (truncateSaturating v)
  else none

end Word

end ClosureBridge
