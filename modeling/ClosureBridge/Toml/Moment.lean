import ClosureBridge.Number.Radix

/-!
# Dates and times of day

A moment is a date, a time of day, or a date with a time of day and perhaps its distance from
universal time. Only its form is checked; its text is kept.

## Main definitions

* `Moment.daysOf`: the length of a month.
* `Moment.date?`, `Moment.time?`, `Moment.offset?`: pass each part.
* `Moment.read?`: read a moment.
-/

namespace ClosureBridge.Toml.Moment

/-- Read a number of a given width and range. -/
def number? (width low high : Nat) (text : List Char) : Option (Nat × List Char) := do
  let ds := text.take width
  let n ← Radix.number? 10 ds
  if ds.length = width ∧ ds.all Char.isDigit ∧ low ≤ n ∧ n ≤ high then
    return (n, text.drop width)
  else none

/-- Pass a character. -/
def pass? (c : Char) : List Char → Option (List Char)
  | d :: rest => if d = c then some rest else none
  | [] => none

/-- Whether a year has a leap day. -/
def isLeap (year : Nat) : Bool :=
  year % 4 == 0 && (year % 100 != 0 || year % 400 == 0)

/-- The number of days of a month. -/
def daysOf (year month : Nat) : Nat :=
  if month = 2 then (if isLeap year then 29 else 28)
  else if month ∈ [4, 6, 9, 11] then 30
  else 31

theorem daysOf_le (year month : Nat) : daysOf year month ≤ 31 := by
  unfold daysOf
  split
  · split <;> omega
  · split <;> omega

/-- Pass a date. -/
def date? (text : List Char) : Option (List Char) := do
  let (year, rest) ← number? 4 0 9999 text
  let (month, rest) ← number? 2 1 12 (← pass? '-' rest)
  let (_, rest) ← number? 2 1 (daysOf year month) (← pass? '-' rest)
  return rest

/-- Pass hours and minutes. -/
def clock? (text : List Char) : Option (List Char) := do
  let (_, rest) ← number? 2 0 23 text
  let (_, rest) ← number? 2 0 59 (← pass? ':' rest)
  return rest

/-- Pass a part of a second, if there is one. -/
def skipFraction : List Char → List Char
  | '.' :: c :: rest => if c.isDigit then rest.dropWhile Char.isDigit else '.' :: c :: rest
  | text => text

/-- Pass a time of day. A minute may have a leap second. -/
def time? (text : List Char) : Option (List Char) := do
  let (_, rest) ← number? 2 0 60 (← pass? ':' (← clock? text))
  return skipFraction rest

/-- Pass the distance from universal time. -/
def offset? : List Char → Option (List Char)
  | c :: rest =>
    if c = 'Z' ∨ c = 'z' then some rest
    else if c = '+' ∨ c = '-' then clock? rest
    else none
  | [] => none

/-- Pass a time of day after a date, if there is one. -/
def skipTime (text : List Char) : List Char :=
  match text with
  | c :: rest =>
    if c = 'T' ∨ c = 't' ∨ c = ' ' then
      match time? rest with
      | some rest => (offset? rest).getD rest
      | none => text
    else text
  | [] => []

/-- Read a moment: its text and what follows. -/
def read? (text : List Char) : Option (List Char × List Char) := do
  let rest ← ((date? text).map skipTime) <|> time? text
  return (text.take (text.length - rest.length), rest)

end ClosureBridge.Toml.Moment
