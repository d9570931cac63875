/-!
# Identifiers of exposed closures

An exposed closure is known to the interpreter by its identifier alone.

## Main definitions

* `Ident`: an identifier.
* `Ident.ofText?`: the check of an identifier that a caller chose.
* `IdentSource`: a source of fresh identifiers, a fixed stem and a running number.
* `Ident.lambdaStem`, `Ident.sourceStem`: the stems in use.
-/

namespace ClosureBridge

/-- An identifier. -/
structure Ident where
  text : String
  deriving DecidableEq, Repr, Hashable

namespace Ident

/-- What an identifier may start with: an ASCII letter or the underscore. -/
def isHead (c : Char) : Bool :=
  c.isAlpha || c == '_'

/-- What an identifier may go on with: an ASCII letter or digit or the underscore. -/
def isTail (c : Char) : Bool :=
  c.isAlphanum || c == '_'

/-- Whether characters form an identifier. -/
def isValid : List Char → Bool
  | [] => false
  | c :: rest => isHead c && rest.all isTail

/-- The identifier with a given text, if the text is one. -/
def ofText? (text : String) : Option Ident :=
  if isValid text.toList then some ⟨text⟩ else none

/-- The text that crosses the boundary: all of it, unless a NUL in it would end it early, and
then nothing. -/
def crossing (id : Ident) : String :=
  if id.text.toList.contains '\x00' then "" else id.text

/-- The stem of identifiers drawn for exposed closures. -/
def lambdaStem : String := "lmb"

/-- The stem of the globals that hold lambdas written as source text. -/
def sourceStem : String := "lmbstr"

theorem ofText?_eq_some_iff {text : String} {id : Ident} :
    ofText? text = some id ↔ id.text = text ∧ isValid text.toList = true := by
  unfold ofText?
  split <;> rename_i h
  · simp only [Option.some.injEq, h, and_true]
    exact ⟨fun e => e ▸ rfl, fun e => e ▸ rfl⟩
  · simp [h]

end Ident

/-- A source of fresh identifiers. -/
structure IdentSource where
  /-- What every identifier starts with. -/
  stem : String
  /-- The number of identifiers drawn; it starts again after the last word. -/
  issued : UInt64 := 0

namespace IdentSource

/-- Draw an identifier: the stem and the number of those drawn before. -/
def next (s : IdentSource) : Ident × IdentSource :=
  (⟨s.stem ++ toString s.issued.toNat⟩, { s with issued := s.issued + 1 })

/-- Draw a number of identifiers. -/
def take (s : IdentSource) : Nat → List Ident × IdentSource
  | 0 => ([], s)
  | n + 1 =>
    let (id, s) := s.next
    let (ids, s) := s.take n
    (id :: ids, s)

@[simp] theorem stem_next (s : IdentSource) : s.next.2.stem = s.stem := rfl

@[simp] theorem issued_next (s : IdentSource) : s.next.2.issued = s.issued + 1 := rfl

end IdentSource

end ClosureBridge
