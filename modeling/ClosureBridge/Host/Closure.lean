import ClosureBridge.Host.Program
import ClosureBridge.Number.FloatText
import ClosureBridge.Text.Replace

/-!
# Closures and handlers

## Main definitions

* `Closure.erase`: a typed closure as a closure.
* `Closure.sample`: a typed closure for each supported shape.
* `Closure.returning`, `Closure.echo`, `Closure.pick`, `Closure.inSequence`, …: untyped closures.
* `Handler.ofRules`: a handler of magic lines by a table.

## Main statements

* `Closure.erase_of_extract?`: on arguments of its own kind an erased closure runs the typed one.
-/

namespace ClosureBridge

namespace Closure

/-- The message of a closure called with arguments of another kind than its own. -/
def misrouted (found expected : InputKind) : String :=
  "internal error: entered unreachable code: " ++ found.label ++ " arguments routed to a (" ++
    expected.typeName ++ ") lambda"

/-- A typed closure as a closure. -/
def erase (s : Shape) (f : s.input.Carrier → Program (.typed s.output)) : Closure := fun args =>
  match args.extract? s.input with
  | some a => (f a).bind fun r => .done (t := .value) (HostValue.ofCarrier s.output r)
  | none => .panic (.text (misrouted args.kind s.input))

theorem erase_of_extract? {s : Shape} (f : s.input.Carrier → Program (.typed s.output))
    {args : Arguments} {a : s.input.Carrier} (h : args.extract? s.input = some a) :
    erase s f args = (f a).bind fun r => .done (t := .value) (HostValue.ofCarrier s.output r) := by
  simp [erase, h]

/-- A checked result, or a panic with the message of the failure. -/
def checked {kind : OutputKind} (r : Except Overflow kind.Carrier) : Program (.typed kind) :=
  match r with
  | .ok a => .done (t := .typed kind) a
  | .error e => .panic (.text e.message)

/-- A result. -/
def give {kind : OutputKind} (r : kind.Carrier) : Program (.typed kind) :=
  .done (t := .typed kind) r

/-- The text that an object is turned into by the sample closure. -/
def objectText : String := "obj"

/-- A typed closure for each supported shape. -/
def sampleBody : (s : Shape) → s.input.Carrier → Program (.typed s.output)
  | ⟨.integer, .integer⟩ => fun (n : Int64) => checked (Word.mul? n 2)
  | ⟨.integer, .float⟩ => fun (n : Int64) => give (Word.toFloat n / 2.0)
  | ⟨.integer, .text⟩ => fun (n : Int64) => give ("n" ++ toString n.toInt)
  | ⟨.integer, .boolean⟩ => fun (n : Int64) => give (n.toInt.tmod 3 == 0)
  | ⟨.boolean, .boolean⟩ => fun (b : Bool) => give (!b)
  | ⟨.boolean, .integer⟩ => fun (b : Bool) => give (if b then 11 else 10 : Int64)
  | ⟨.float, .float⟩ => fun (v : Float) => give (v * 2.0)
  | ⟨.float, .integer⟩ => fun (v : Float) => give (Word.floorSaturating v)
  | ⟨.float, .text⟩ => fun (v : Float) => give (FloatText.write v)
  | ⟨.float, .boolean⟩ => fun (v : Float) => give (decide (2.0 < v))
  | ⟨.text, .text⟩ => fun (s : String) => give (String.ofList s.toList.reverse)
  | ⟨.text, .integer⟩ => fun (s : String) => give (Int64.ofNat s.utf8ByteSize)
  | ⟨.text, .float⟩ => fun (s : String) => give (Float.ofNat s.toList.length / 2.0)
  | ⟨.text, .boolean⟩ => fun (s : String) => give (s.toList.head? == some 'a')
  | ⟨.object, .object⟩ => fun (a : Ref) => give a
  | ⟨.object, .integer⟩ => fun _ => give (1 : Int64)
  | ⟨.object, .float⟩ => fun _ => give (0.5 : Float)
  | ⟨.object, .text⟩ => fun _ => give objectText
  | ⟨.object, .boolean⟩ => fun _ => give true
  | ⟨.objectPair, .object⟩ => fun (p : Ref × Ref) => give p.2
  | ⟨.objectTriple, .object⟩ => fun (p : Ref × Ref × Ref) => give p.2.2
  | s => fun _ => .panic (.text ("no sample closure for " ++ s.display))

/-- The sample closure of a shape. -/
def sample (s : Shape) : Closure :=
  erase s (sampleBody s)

/-- A value as the result of a closure. -/
def result (v : HostValue) : Program .value :=
  .done (t := .value) v

/-- The result that a term stands for. A missing object is no result. -/
def ofTerm : ValueTerm → Program .value
  | .integer n => result (.integer n)
  | .float v => result (.float v)
  | .text s => result (.text s)
  | .boolean b => result (.boolean b)
  | .object t => .build t fun r =>
    match r with
    | some r => result (.object r)
    | none => .panic (.text "null object")

/-- A closure with a fixed result. -/
def returning (v : ValueTerm) : Closure := fun _ => ofTerm v

/-- A closure that gives back its argument, the first of several. -/
def echo : Closure := fun args =>
  result <| match args with
    | .integer n => .integer n
    | .boolean b => .boolean b
    | .float v => .float v
    | .text s => .text s
    | .object a => .object a
    | .pair a _ => .object a
    | .triple a _ _ => .object a

/-- The objects among the arguments. -/
def objects : Arguments → List Ref
  | .object a => [a]
  | .pair a b => [a, b]
  | .triple a b c => [a, b, c]
  | _ => []

/-- A closure that gives back one of the objects it receives. -/
def pick (n : Nat) : Closure := fun args =>
  match (objects args)[n]? with
  | some r => result (.object r)
  | none => .panic (.text "no such object")

/-- A closure that tells the kind of its arguments. -/
def kindName : Closure := fun args => result (.text args.kind.typeName)

/-- A closure that panics. -/
def panicking (payload : Payload) : Closure := fun _ => .panic payload

/-- A closure that calls another one, by its identifier, with the arguments it receives. -/
def forwarding (id : String) : Closure := fun args =>
  .lookup id args fun r =>
    match r with
    | some v => result v
    | none => result (.text "missing")

/-- A closure that runs source and gives back the object. -/
def executing (context source : String) (mode : Mode) (showErrors : Bool) : Closure := fun _ =>
  .execute context source mode showErrors fun r =>
    match r with
    | some r => result (.object r)
    | none => result (.text "failed")

/-- A closure that takes another one out of the registry. -/
def unregistering (id : String) : Closure := fun _ =>
  .unregister id fun b => result (.boolean b)

/-- A closure that takes a step and gives back the text of the answer. -/
def stepping (s : Step) : Closure := fun _ =>
  .proceed s fun answer => result (.text answer.compact)

/-- A closure that does what several do, with the result of the last. -/
def inSequence : List Closure → Closure
  | [] => fun _ => .panic (.text "nothing to do")
  | [f] => f
  | f :: rest => fun args => (f args).bind fun _ => inSequence rest args

end Closure

/-- What a table says about a magic line. -/
structure Rule where
  code : Option String := none
  inline : Option String := none
  /-- A step taken when the line is met. -/
  step : Option Step := none

/-- Code that handles a magic line, given the directive and the argument. -/
abbrev Handler := String → String → Program .directive

namespace Handler

/-- The place of the argument in a rule. -/
def placeholder : String := "\x7barg\x7d"

/-- A text of a rule with the argument in its place. -/
def fill (argument text : String) : String :=
  Replace.text placeholder argument text

/-- Apply a rule. -/
def apply (rule : Rule) (argument : String) : Program .directive :=
  let directive (notes : List Json) : Program .directive :=
    .done (t := .directive) ⟨rule.code.map (fill argument), rule.inline.map (fill argument), notes⟩
  match rule.step with
  | none => directive []
  | some s => .proceed s fun answer => directive [answer]

/-- A handler by a table, with a rule for all other directives. -/
def ofRules (rules : Bindings Rule) (otherwise : Rule) : Handler := fun directive argument =>
  apply ((rules.get? directive).getD otherwise) argument

/-- The answer to a directive where there are no magic lines. -/
def unknown (directive : String) : Directive :=
  { inline := some ("Unknown magic directive: " ++ directive) }

end Handler

end ClosureBridge
