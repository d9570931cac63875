/-!
# The shortest decimal that reads back

Every positive binary fraction `m * 2 ^ q` that is a float owns an interval of reals that round to
it. Its shortest decimal is the point of the coarsest decimal grid with a point in that interval,
and of two such points the nearer one.

## Main definitions

* `Ratio`: a quotient of natural numbers.
* `Shortest.interval`: the reals that round to a float.
* `Shortest.digits`: the digits and the decimal exponent of the shortest decimal.
-/

namespace ClosureBridge

/-- A quotient of natural numbers; the denominator is positive. -/
structure Ratio where
  num : Nat
  den : Nat

namespace Ratio

/-- The quotient `n * base ^ e`. -/
def scaled (n base : Nat) : Int → Ratio
  | .ofNat e => ⟨n * Nat.pow base e, 1⟩
  | .negSucc e => ⟨n, Nat.pow base (e + 1)⟩

/-- Whether one quotient is below another. -/
def lt (a b : Ratio) : Bool :=
  a.num * b.den < b.num * a.den

/-- Whether one quotient is at most another. -/
def le (a b : Ratio) : Bool :=
  a.num * b.den ≤ b.num * a.den

/-- The whole part of `a / b`. -/
def floorDiv (a b : Ratio) : Nat :=
  a.num * b.den / (a.den * b.num)

/-- The distance of two quotients. -/
def dist (a b : Ratio) : Ratio :=
  let x := a.num * b.den
  let y := b.num * a.den
  ⟨if x ≤ y then y - x else x - y, a.den * b.den⟩

end Ratio

namespace Shortest

/-- The reals that round to the float `m * 2 ^ q`: the ends, and whether they belong. The lower
neighbour of a power of two is only half as far away, except at the bottom of the range. -/
def interval (m : Nat) (q : Int) : Ratio × Ratio × Bool :=
  let low := if m = Nat.pow 2 52 ∧ -1074 < q then Ratio.scaled (4 * m - 1) 2 (q - 2)
    else Ratio.scaled (2 * m - 1) 2 (q - 1)
  (low, Ratio.scaled (2 * m + 1) 2 (q - 1), m % 2 = 0)

/-- Whether a quotient rounds to the float `m * 2 ^ q`. -/
def roundsTo (m : Nat) (q : Int) (x : Ratio) : Bool :=
  let (low, high, closed) := interval m q
  if closed then low.le x && x.le high else low.lt x && x.lt high

/-- The greatest decimal exponent `e` with `10 ^ e` at most `x`, looked for downwards from a
bound. -/
def exponentBelow (x : Ratio) : Nat → Int → Int
  | 0, e => e
  | n + 1, e => if (Ratio.scaled 1 10 e).le x then e else exponentBelow x n (e - 1)

/-- The point of the grid `10 ^ e` that rounds to the float: of the two neighbours of the value
the nearer, and the upper when both are as near. -/
def onGrid? (m : Nat) (q e : Int) : Option Nat :=
  let value := Ratio.scaled m 2 q
  let below := value.floorDiv (Ratio.scaled 1 10 e)
  let above := below + 1
  let point (d : Nat) := Ratio.scaled d 10 e
  match roundsTo m q (point below), roundsTo m q (point above) with
  | true, true =>
    if (value.dist (point below)).lt (value.dist (point above)) then some below else some above
  | true, false => some below
  | false, true => some above
  | false, false => none

/-- The first grid with a hit, from a given one to `count` finer ones. -/
def search (m : Nat) (q : Int) : Nat → Int → Nat × Int
  | 0, e => ((onGrid? m q e).getD 0, e)
  | count + 1, e =>
    match onGrid? m q e with
    | some d => (d, e)
    | none => search m q count (e - 1)

/-- The digits, as a number, and the exponent of the last one, of the shortest decimal that reads
back as the float `m * 2 ^ q`, which is not zero. Seventeen digits always suffice. -/
def digits (m : Nat) (q : Int) : Nat × Int :=
  search m q 16 (exponentBelow (Ratio.scaled m 2 q) 640 309)

end Shortest

end ClosureBridge
