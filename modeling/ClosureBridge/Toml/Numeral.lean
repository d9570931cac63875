import ClosureBridge.Number.FloatText
import ClosureBridge.Number.Radix
import ClosureBridge.Number.Word

/-!
# Numbers

## Main definitions

* `Numeral.integer?`: read an integer, in decimal with an optional sign or in base two, eight or
  sixteen without one.
* `Numeral.float?`: read a decimal with a fraction, an exponent or both, an infinity or no number.
-/

namespace ClosureBridge.Toml.Numeral

/-- The digits that go on a number, without the underscores between two of them. -/
def moreDigits (isDigit : Char → Bool) : List Char → List Char × List Char
  | '_' :: c :: rest =>
    if isDigit c then
      let (ds, rest) := moreDigits isDigit rest
      (c :: ds, rest)
    else ([], '_' :: c :: rest)
  | c :: rest =>
    if isDigit c then
      let (ds, rest) := moreDigits isDigit rest
      (c :: ds, rest)
    else ([], c :: rest)
  | [] => ([], [])

/-- Read at least one digit. -/
def digits? (isDigit : Char → Bool) : List Char → Option (List Char × List Char)
  | c :: rest =>
    if isDigit c then
      let (ds, rest) := moreDigits isDigit rest
      some (c :: ds, rest)
    else none
  | [] => none

/-- Read a sign, if there is one. -/
def sign : List Char → List Char × List Char
  | '+' :: rest => (['+'], rest)
  | '-' :: rest => (['-'], rest)
  | text => ([], text)

/-- Read a whole number. It starts with a zero only if it is zero. -/
def whole? : List Char → Option (List Char × List Char)
  | '0' :: rest => some (['0'], rest)
  | text => digits? Char.isDigit text

/-- Read an integer without a sign in a given base. -/
def inBase? (base : Nat) (text : List Char) : Option (Int64 × List Char) := do
  let (ds, rest) ← digits? (Radix.isDigit base) text
  return (← Word.ofInt? (← Radix.number? base ds), rest)

/-- Read an integer in decimal. -/
def decimal? (text : List Char) : Option (Int64 × List Char) := do
  let (mark, text) := sign text
  let (ds, rest) ← whole? text
  let n : Int ← (Radix.number? 10 ds).map Int.ofNat
  return (← Word.ofInt? (if mark = ['-'] then -n else n), rest)

/-- Read an integer. -/
def integer? : List Char → Option (Int64 × List Char)
  | '0' :: 'x' :: text => inBase? 16 text
  | '0' :: 'o' :: text => inBase? 8 text
  | '0' :: 'b' :: text => inBase? 2 text
  | text => decimal? text

/-- Read a fraction with its point. -/
def fraction? : List Char → Option (List Char × List Char)
  | '.' :: rest => (digits? Char.isDigit rest).map fun (ds, rest) => ('.' :: ds, rest)
  | _ => none

/-- Read an exponent with its mark. -/
def exponent? : List Char → Option (List Char × List Char)
  | c :: rest =>
    if c = 'e' ∨ c = 'E' then
      let (mark, rest) := sign rest
      (digits? Char.isDigit rest).map fun (ds, rest) => ('e' :: mark ++ ds, rest)
    else none
  | [] => none

/-- Read a decimal with a fraction, an exponent or both. One too great for a float is refused. -/
def decimalFloat? (text : List Char) : Option (Float × List Char) := do
  let (mark, text) := sign text
  let (ds, rest) ← whole? text
  let (fraction, rest) := (fraction? rest).getD ([], rest)
  let (exponent, rest) := (exponent? rest).getD ([], rest)
  if fraction.isEmpty && exponent.isEmpty then none
  else
    let v ← FloatText.read? (mark ++ ds ++ fraction ++ exponent)
    if Exact.ofFloat v = .infinite false then none else return (v, rest)

/-- Read an infinity or no number. -/
def word? (text : List Char) : Option (Float × List Char) :=
  let (mark, text) := sign text
  match text with
  | 'i' :: 'n' :: 'f' :: rest => (FloatText.read? (mark ++ ['i', 'n', 'f'])).map (·, rest)
  | 'n' :: 'a' :: 'n' :: rest => (FloatText.read? (mark ++ ['n', 'a', 'n'])).map (·, rest)
  | _ => none

/-- Read a float. -/
def float? (text : List Char) : Option (Float × List Char) :=
  decimalFloat? text <|> word? text

end ClosureBridge.Toml.Numeral
