import ClosureBridge.Context
import ClosureBridge.Text.Lines

/-!
# Lambdas written as source text

A text `params: body` becomes a global function of the interpreter, defined when it is first asked
for and read from the namespace from then on.

## Main definitions

* `SourceLambda.check`: which texts are accepted.
* `SourceLambda.definition`: the statement that defines the global.
* `SourceLambda.attempt`, `SourceLambda.settle`: begin and end the definition of a lambda.
* `SourceLambda.resolve`: the function, in a context.
-/

namespace ClosureBridge.SourceLambda

/-- The keyword that starts a lambda; the text leaves it out. -/
def keyword : String := "lambda"

/-- Whether a text starts with the keyword as a word of its own. -/
def startsWithKeyword (text : List Char) : Bool :=
  match Split.dropPrefix? keyword.toList text with
  | none => false
  | some rest => !rest.head?.any fun c => Category.isAlphanumeric c || c == '_'

/-- Accept a text that has a separator and does not start with the keyword. -/
def check (source : String) : Except LambdaError SourceLambda :=
  let text := Margin.trimStart source.toList
  if startsWithKeyword text then .error .introducerKeyword
  else if !text.contains ':' then .error .missingSeparator
  else .ok { source }

/-- The statement that defines a global. -/
def definition (name : Ident) (source : String) : String :=
  name.text ++ " = " ++ keyword ++ " " ++ Margin.trimString source

variable {ι : Type} (I : Interpreter ι) (c : Context)

/-- Keep an accepted text. -/
def keep (l : SourceLambda) : Exec (World ι) Nat :=
  modifyGet fun w => (w.sources.size, { w with sources := w.sources.push l })

/-- A lambda that is being defined under a name. -/
def begun (name : Ident) (l : SourceLambda) : SourceLambda :=
  { l with pending := some name }

/-- A lambda whose definition has ended. The name is that of its global if the definition
succeeded. -/
def ended (ok : Bool) (l : SourceLambda) : SourceLambda :=
  { l with global := if ok then l.global.or l.pending else l.global, pending := none }

/-- Begin to define a lambda, under a name drawn for this attempt. -/
def attempt (n : Nat) : Exec (World ι) Ident := do
  let name ← World.drawSourceId
  modify fun w => { w with sources := w.sources.modify n (begun name) }
  return name

/-- Run the definition of a global. -/
def define (name : Ident) (source : String) : Exec (World ι) (Except LambdaError Unit) := do
  match ← c.execute I (definition name source) .file false with
  | none => return .error (.evaluation ("could not evaluate lambda " ++ source))
  | some r =>
    Context.discard I r
    return .ok ()

/-- End the definition of a lambda. -/
def settle (n : Nat) (ok : Bool) : Exec (World ι) Unit :=
  modify fun w => { w with sources := w.sources.modify n (ended ok) }

/-- What the namespace binds a global to. -/
def fetch (name : Ident) : Exec (World ι) (Except LambdaError Ref) := do
  match ← c.getGlobal I name.text with
  | some r => return .ok r
  | none => return .error (.evaluation ("global " ++ name.text ++ " is not defined"))

/-- Whether a definition succeeded. -/
def succeeded : Except Payload (Except LambdaError Unit) → Bool
  | .ok (.ok ()) => true
  | _ => false

/-- The function of a lambda whose definition has ended; it is the error or the panic of the
definition if that has failed. -/
def conclude (name : Ident) :
    Except Payload (Except LambdaError Unit) → Exec (World ι) (Except LambdaError Ref)
  | .error payload => Exec.panic payload
  | .ok (.error e) => return .error e
  | .ok (.ok ()) => fetch I c name

/-- The function of a lambda, in a context; the first time it is defined there. A lambda that is
asked for while it is being defined waits for the end of its own definition, for ever. -/
def resolve (n : Nat) : Exec (World ι) (Except LambdaError Ref) := do
  match (← get).sources[n]? with
  | none => return .error .missingSeparator
  | some l =>
    match l.global, l.pending with
    | some name, _ => fetch I c name
    | none, some _ => Exec.exhausted
    | none, none =>
      let name ← attempt n
      let made ← (define I c name l.source).catchPanic
      settle n (succeeded made)
      conclude I c name made

end ClosureBridge.SourceLambda
