import ClosureBridge.Shape
import ClosureBridge.Number.Exact

/-!
# Values that cross the boundary

A closure receives `Arguments` and gives back a `HostValue`. The value is brought into the output
kind of the closure's shape before it becomes an interpreter object, and only exact conversions
succeed.

## Main definitions

* `Ref`: a reference to an interpreter object; the host never looks behind it.
* `HostValue`, `Arguments`.
* `HostValue.coerce`: the conversion into an output kind.
* `InputKind.Carrier`, `OutputKind.Carrier`: the types of the host that a typed closure works on.
* `Arguments.extract?`, `HostValue.ofCarrier`: between the two views.

## Main statements

* `HostValue.kind_of_coerce`: a converted value has the kind asked for.
* `HostValue.coerce_kind`: a value of the kind asked for is kept.
-/

namespace ClosureBridge

/-- A reference to an interpreter object. A missing object is the absence of a reference. -/
abbrev Ref := Nat

/-- What a closure gives back. -/
inductive HostValue where
  | integer (n : Int64)
  | float (v : Float)
  | text (s : String)
  | boolean (b : Bool)
  | object (r : Ref)

namespace HostValue

/-- The kind of a value. -/
def kind : HostValue → OutputKind
  | integer _ => .integer
  | float _ => .float
  | text _ => .text
  | boolean _ => .boolean
  | object _ => .object

/-- A value as one of another kind. Integers become floats and truth values, truth values become
numbers, and a float that denotes a word becomes an integer. -/
def convert : HostValue → OutputKind → Option HostValue
  | integer n, .float => some (float (Word.toFloat n))
  | integer n, .boolean => some (boolean (n != 0))
  | boolean b, .integer => some (integer (if b then 1 else 0))
  | boolean b, .float => some (float (if b then 1.0 else 0.0))
  | float v, .integer => (Word.ofFloat? v).map integer
  | _, _ => none

/-- A value as one of the kind asked for. -/
def coerce (v : HostValue) (target : OutputKind) : Option HostValue :=
  if v.kind = target then some v else v.convert target

@[simp] theorem coerce_kind (v : HostValue) : v.coerce v.kind = some v := by
  simp [coerce]

theorem kind_of_convert {v w : HostValue} {target : OutputKind} (h : v.convert target = some w) :
    w.kind = target := by
  cases v <;> cases target <;> simp only [convert, Option.some.injEq, reduceCtorEq,
    Option.map_eq_some_iff] at h <;> first | (subst h; rfl) | (obtain ⟨_, _, rfl⟩ := h; rfl)

theorem kind_of_coerce {v w : HostValue} {target : OutputKind} (h : v.coerce target = some w) :
    w.kind = target := by
  unfold coerce at h
  split at h
  · rename_i hk
    rw [Option.some.injEq] at h
    subst h
    exact hk
  · exact kind_of_convert h

end HostValue

/-- What a closure receives. -/
inductive Arguments where
  | integer (n : Int64)
  | boolean (b : Bool)
  | float (v : Float)
  | text (s : String)
  | object (a : Ref)
  | pair (a b : Ref)
  | triple (a b c : Ref)

namespace Arguments

/-- The kind of the arguments. -/
def kind : Arguments → InputKind
  | integer _ => .integer
  | boolean _ => .boolean
  | float _ => .float
  | text _ => .text
  | object _ => .object
  | pair .. => .objectPair
  | triple .. => .objectTriple

end Arguments

/-- The type that a typed closure receives. -/
def InputKind.Carrier : InputKind → Type
  | integer => Int64
  | boolean => Bool
  | float => Float
  | text => String
  | object => Ref
  | objectPair => Ref × Ref
  | objectTriple => Ref × Ref × Ref

/-- The type that a typed closure gives back. -/
def OutputKind.Carrier : OutputKind → Type
  | integer => Int64
  | float => Float
  | text => String
  | boolean => Bool
  | object => Ref

/-- The arguments as the type of a kind, if they are of that kind. -/
def Arguments.extract? : (k : InputKind) → Arguments → Option k.Carrier
  | .integer, integer n => some n
  | .boolean, boolean b => some b
  | .float, float v => some v
  | .text, text s => some s
  | .object, object a => some a
  | .objectPair, pair a b => some (a, b)
  | .objectTriple, triple a b c => some (a, b, c)
  | _, _ => none

/-- A result of a typed closure as a value. -/
def HostValue.ofCarrier : (k : OutputKind) → k.Carrier → HostValue
  | .integer, n => integer n
  | .float, v => float v
  | .text, s => text s
  | .boolean, b => boolean b
  | .object, r => object r

@[simp] theorem HostValue.kind_ofCarrier (k : OutputKind) (r : k.Carrier) :
    (ofCarrier k r).kind = k := by
  cases k <;> rfl

/-- Exactly arguments of a kind have the type of that kind. -/
theorem Arguments.isSome_extract?_iff (k : InputKind) (args : Arguments) :
    (args.extract? k).isSome = true ↔ args.kind = k := by
  cases k <;> cases args <;> constructor <;> intro h <;> first | rfl | cases h

end ClosureBridge
