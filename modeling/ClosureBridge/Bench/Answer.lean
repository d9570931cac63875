import ClosureBridge.Bench.State
import ClosureBridge.SourceLambda

/-!
# Answers to steps

## Main definitions

* `Answer`: what a step answers, and the object in it.
* `Answer.ofObject`, `Answer.valueJson`, `Answer.lambdaJson`, …: the answers of each form.
* `Answer.ofReport`, `Answer.ofError`: what is told about a failure.
-/

namespace ClosureBridge

/-- What a step answers, and the object in it that may be kept. -/
structure Answer where
  json : Json
  object : Option Ref := none

namespace Answer

/-- An answer without an object. -/
def plain (json : Json) : Answer :=
  { json }

/-- The answer of a step that has nothing to tell. -/
def done : Answer :=
  plain (.text "ok")

/-- A truth value. -/
def ofBool (b : Bool) : Answer :=
  plain (.bool b)

/-- A number. -/
def ofNat (n : Nat) : Answer :=
  plain (.count n)

/-- A text. -/
def ofText (s : String) : Answer :=
  plain (.text s)

/-- A failure. -/
def reportJson (r : Report) : Json :=
  .record (("error", .text r.kind) :: (r.message.map fun m => ("message", Json.text m)).toList)

/-- A failure. -/
def ofReport (r : Report) : Answer :=
  plain (reportJson r)

/-- A failure of setting up a session: also its first cause. -/
def ofError (e : Error) : Answer :=
  let cause := Json.optional Json.text e.causes.head?
  match reportJson e.report with
  | .record members => plain (.record (members ++ [("source", cause)]))
  | json => plain json

/-- An object that is there, by its text. -/
def describeObject (r : Ref) : Quiet Bench.Outside Json := do
  return .record [("type", .text (← Script.Store.object (some r)).typeName),
    ("repr", .text (← Script.Store.shown (some r)))]

/-- An object. -/
def objectJson (r : Option Ref) : Exec Session Json := do
  match r, (← Bench.getDesk).view with
  | none, _ => return .null
  | some r, .reference => return .count r
  | some r, .text => (describeObject r).run

/-- An object. -/
def ofObject (r : Option Ref) : Exec Session Answer := do
  return ⟨← objectJson r, r⟩

/-- Objects. -/
def objectsJson (rs : List (Option Ref)) : Exec Session Json := do
  return .list (← rs.mapM objectJson)

/-- An integer, as its decimal digits. -/
def integerJson (n : Int64) : Json :=
  .text (toString n.toInt)

/-- A float, as its shortest decimal. -/
def floatJson (v : Float) : Json :=
  .text (FloatText.write v)

/-- A record with one member. -/
def single (name : String) (json : Json) : Json :=
  .record [(name, json)]

/-- A value. An object is shown by its reference. -/
def tokenJson : HostValue → Json
  | .integer n => single "int" (integerJson n)
  | .float v => single "float" (floatJson v)
  | .text s => single "str" (.text s)
  | .boolean b => single "bool" (.bool b)
  | .object r => single "token" (.count r)

/-- Arguments. -/
def argumentsJson (args : Arguments) : Exec Session Json := do
  let object (r : Ref) : Exec Session Json := objectJson (some r)
  match args with
  | .integer n => return single "int" (integerJson n)
  | .boolean b => return single "bool" (.bool b)
  | .float v => return single "float" (floatJson v)
  | .text s => return single "str" (.text s)
  | .object a => return single "object" (← object a)
  | .pair a b => return single "pair" (.list [← object a, ← object b])
  | .triple a b c => return single "triple" (.list [← object a, ← object b, ← object c])

/-- A value. -/
def valueJson (v : HostValue) : Exec Session Json := do
  match v with
  | .object r => return single "object" (← objectJson (some r))
  | v => return tokenJson v

/-- What a tuple was unpacked into. -/
def unpackedJson : Option Unpacked → Exec Session Json
  | none => return .null
  | some (.long n) => return single "long" (integerJson n)
  | some (.double v) => return single "double" (floatJson v)
  | some (.text s) => return single "text" (.text s)
  | some (.objects rs) => return single "objects" (← objectsJson (rs.map some))

/-- A lambda. -/
def lambdaJson (n : Nat) : Exec Session Json := do
  let w ← get
  match w.lambdas[n]? with
  | none => return .null
  | some l =>
    return .record [("id", .text l.id.text), ("shape", .text l.shape.display),
      ("released", .bool l.descriptor.isNone), ("object", ← objectJson (w.callable? n)),
      ("debug", .text (Lambda.describe l))]

/-- The counters of the router, and the number of registered identifiers. -/
def statsJson (w : Session) : Json :=
  .record [("calls", .count w.stats.calls.toNat), ("misses", .count w.stats.misses.toNat),
    ("argument_errors", .count w.stats.argumentErrors.toNat),
    ("panics", .count w.stats.panics.toNat), ("registered", .count w.registry.size)]

/-- A pending error. -/
def faultJson (e : Option Script.Fault) : Json :=
  Json.optional (fun e => .list [.text e.kind, .text e.message]) e

/-- A context just opened. -/
def contextJson (c : Context) : Json :=
  .record [("marker", .text c.marker.toString), ("capturing", .bool false)]

/-- Something or a failure. -/
def ofExcept {ε α : Type} (report : ε → Report) (f : α → Exec Session Answer) :
    Except ε α → Exec Session Answer
  | .ok a => f a
  | .error e => return ofReport (report e)

end Answer

end ClosureBridge
