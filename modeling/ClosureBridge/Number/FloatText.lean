import ClosureBridge.Number.Exact
import ClosureBridge.Number.Shortest

/-!
# Floats as text

## Main definitions

* `FloatText.write`: the shortest decimal that reads back, positional from `1e-4` up to below
  `1e16`, always with a mark that tells it from an integer.
* `FloatText.read?`: the float nearest to a decimal.
-/

namespace ClosureBridge.FloatText

/-- The decimal digits of a natural number. -/
def decimal (n : Nat) : List Char :=
  Nat.toDigits 10 n

/-- A digit sequence without the zeros it ends with. -/
def dropTrailingZeros (ds : List Char) : List Char :=
  (ds.reverse.dropWhile (· == '0')).reverse

/-- The decimal exponents that are written positionally: the point stands at most sixteen digits
after the first one, and at most three zeros follow it before the first one. -/
def positional (point : Int) : Bool :=
  -3 ≤ point && point ≤ 16

/-- Digits with the decimal point after the first `point` of them. -/
def placePoint (ds : List Char) (point : Int) : List Char :=
  if point ≤ 0 then '0' :: '.' :: List.replicate (-point).toNat '0' ++ ds
  else
    let whole := ds.take point.toNat
    let padding := List.replicate (point.toNat - whole.length) '0'
    let fraction := ds.drop point.toNat
    whole ++ padding ++ '.' :: if fraction.isEmpty then ['0'] else fraction

/-- Digits with an exponent: one digit before the point, and no point when it is the only one. -/
def withExponent (ds : List Char) (point : Int) : List Char :=
  let exponent := point - 1
  let mark := if exponent < 0 then ['e', '-'] else ['e']
  let power := mark ++ decimal exponent.natAbs
  match ds with
  | [] => power
  | [d] => d :: power
  | d :: rest => d :: '.' :: rest ++ power

/-- The text of a positive value. -/
def magnitude (m : Nat) (q : Int) : List Char :=
  let (d, e) := Shortest.digits m q
  let all := decimal d
  let point := (all.length : Int) + e
  let ds := dropTrailingZeros all
  if positional point then placePoint ds point else withExponent ds point

/-- The text of a float. -/
def write (v : Float) : String :=
  match Exact.ofFloat v with
  | .nan => "NaN"
  | .infinite negative => if negative then "-inf" else "inf"
  | .finite negative m q =>
    let body := if m = 0 then ['0', '.', '0'] else magnitude m q
    String.ofList (if negative then '-' :: body else body)

/-- The number that decimal digits denote. -/
def value (ds : List Char) : Nat :=
  ds.foldl (fun n c => n * 10 + (c.toNat - '0'.toNat)) 0

/-- The float nearest to `n * 10 ^ e`. Past the ends of the range the answer is known without
computing the power. -/
def scaled (n : Nat) (e : Int) : Float :=
  let size : Int := (decimal n).length + e
  if n = 0 then 0.0
  else if 310 < size then Float.ofScientific 1 false 400
  else if size < -330 then 0.0
  else if e < 0 then Float.ofScientific n true e.natAbs
  else Float.ofScientific n false e.natAbs

/-- The exponent part of a decimal: nothing, or a mark with a signed number. -/
def readExponent? : List Char → Option Int
  | [] => some 0
  | mark :: rest =>
    let (negative, ds) := match rest with
      | '-' :: ds => (true, ds)
      | '+' :: ds => (false, ds)
      | ds => (false, ds)
    if (mark == 'e' || mark == 'E') && !ds.isEmpty && ds.all Char.isDigit then
      some (if negative then -(value ds : Int) else value ds)
    else none

/-- The float nearest to an unsigned decimal: digits with at most one point among or around them,
at least one digit, and an optional exponent. -/
def readMagnitude? (text : List Char) : Option Float :=
  let whole := text.takeWhile Char.isDigit
  let afterWhole := text.dropWhile Char.isDigit
  let (fraction, afterFraction) := match afterWhole with
    | '.' :: rest => (rest.takeWhile Char.isDigit, rest.dropWhile Char.isDigit)
    | rest => ([], rest)
  if whole.isEmpty && fraction.isEmpty then none
  else (readExponent? afterFraction).map fun e =>
    scaled (value (whole ++ fraction)) (e - fraction.length)

/-- The float that an unsigned word or decimal denotes. -/
def readUnsigned? (text : List Char) : Option Float :=
  let lower := String.ofList (text.map Char.toLower)
  if lower = "inf" || lower = "infinity" then some (Float.ofScientific 1 false 400)
  else if lower = "nan" then some (0.0 / 0.0)
  else readMagnitude? text

/-- The float that a text denotes: a decimal, an infinity or no number, with an optional sign. -/
def read? : List Char → Option Float
  | '-' :: rest => (readUnsigned? rest).map fun v => -v
  | '+' :: rest => readUnsigned? rest
  | text => readUnsigned? text

end ClosureBridge.FloatText
