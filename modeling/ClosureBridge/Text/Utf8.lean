/-!
# Reading UTF-8

Octets are read one at a time. An octet that cannot continue the character begun before it ends
that character as ill-formed and is read afresh, so each maximal ill-formed prefix is reported
once.

## Main definitions

* `Utf8.units`: the characters of an octet sequence, `none` for an ill-formed prefix.
* `Utf8.decode?`: the text of a well-formed sequence.
* `Utf8.decodeLossy`: the text of any sequence, U+FFFD in place of what is ill-formed.
-/

namespace ClosureBridge.Utf8

/-- A character whose lead octet has been read. -/
structure Pending where
  /-- The bits read so far. -/
  value : Nat
  /-- How many more octets the character needs. -/
  owed : Nat
  /-- The least next octet. -/
  low : Nat
  /-- The greatest next octet. -/
  high : Nat

/-- What a lead octet begins: a whole character, or one that owes more octets. -/
def lead (b : Nat) : Option (Char ⊕ Pending) :=
  if b < 0x80 then some (.inl (Char.ofNat b))
  else if b < 0xC2 then none
  else if b < 0xE0 then some (.inr ⟨b % 0x20, 1, 0x80, 0xBF⟩)
  else if b < 0xF0 then
    some (.inr ⟨b % 0x10, 2, if b = 0xE0 then 0xA0 else 0x80, if b = 0xED then 0x9F else 0xBF⟩)
  else if b < 0xF5 then
    some (.inr ⟨b % 0x08, 3, if b = 0xF0 then 0x90 else 0x80, if b = 0xF4 then 0x8F else 0xBF⟩)
  else none

/-- Read an octet with no character begun: what it yields, and what it begins. -/
def start (b : Nat) : List (Option Char) × Option Pending :=
  match lead b with
  | none => ([none], none)
  | some (.inl c) => ([some c], none)
  | some (.inr p) => ([], some p)

/-- Read one octet. -/
def step (pending : Option Pending) (b : Nat) : List (Option Char) × Option Pending :=
  match pending with
  | none => start b
  | some p =>
    if p.low ≤ b ∧ b ≤ p.high then
      let value := p.value * 0x40 + b % 0x40
      if p.owed = 1 then ([some (Char.ofNat value)], none)
      else ([], some ⟨value, p.owed - 1, 0x80, 0xBF⟩)
    else
      let (out, next) := start b
      (none :: out, next)

/-- The characters of an octet sequence after what is pending, `none` for an ill-formed prefix. -/
def unitsFrom (pending : Option Pending) : List UInt8 → List (Option Char)
  | [] => if pending.isSome then [none] else []
  | b :: rest =>
    let (out, next) := step pending b.toNat
    out ++ unitsFrom next rest

/-- The characters of an octet sequence, `none` for each maximal ill-formed prefix. -/
def units (octets : List UInt8) : List (Option Char) :=
  unitsFrom none octets

/-- The text of a well-formed octet sequence. -/
def decode? (octets : List UInt8) : Option String :=
  ((units octets).mapM id).map String.ofList

/-- The text of any octet sequence, U+FFFD in place of each maximal ill-formed prefix. -/
def decodeLossy (octets : List UInt8) : String :=
  String.ofList ((units octets).map fun c => c.getD '\ufffd')

end ClosureBridge.Utf8
