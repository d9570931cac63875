import ClosureBridge.Value
import ClosureBridge.Ident
import ClosureBridge.Text.Quoted

/-!
# What can go wrong

Each failure is a cause with its data; its wording is one function of the cause. An error that
wraps another has the same wording, and lists the wrapped one among its causes.

## Main definitions

* `LoadError`, `SymbolError`, `BindError`: finding and binding an interpreter.
* `RegistryError`, `ArgumentError`, `LambdaError`: exposing and calling closures.
* `ConfigError`: reading a configuration.
* `Error`: any of those that setting up a session can meet.
* `Report`: the name of the innermost cause and the wording.
-/

namespace ClosureBridge

/-- An error as it is reported: the name of the innermost cause and, unless it is another
program's, the wording. -/
structure Report where
  kind : String
  message : Option String
  deriving DecidableEq, Repr

/-- Why an interpreter image could not be opened. -/
inductive LoadError where
  | invalidName
  | notFound (path : String)
  | loadFailed (reason : String)
  deriving DecidableEq, Repr

namespace LoadError

/-- The wording. -/
def message : LoadError → String
  | invalidName => "Invalid library name"
  | notFound path => "Library file not found: " ++ path
  | loadFailed reason => "Failed to load library: " ++ reason

/-- The error as it is reported. The reason of a failed load is the platform's and left out. -/
def report (e : LoadError) : Report :=
  match e with
  | invalidName => ⟨"InvalidName", e.message⟩
  | notFound _ => ⟨"NotFound", e.message⟩
  | loadFailed _ => ⟨"LoadFailed", none⟩

end LoadError

/-- Why an entry point of an image could not be found. -/
inductive SymbolError where
  | invalidName
  | notFound (name : String)
  deriving DecidableEq, Repr

namespace SymbolError

/-- The wording. -/
def message : SymbolError → String
  | invalidName => "Invalid symbol name"
  | notFound name => "Symbol not found: " ++ name

/-- The error as it is reported. -/
def report (e : SymbolError) : Report :=
  match e with
  | invalidName => ⟨"InvalidName", e.message⟩
  | notFound _ => ⟨"NotFound", e.message⟩

end SymbolError

/-- Why no interpreter could be bound. -/
inductive BindError where
  | load (e : LoadError)
  | noLibrary (tried : List String)
  | missingSymbol (name : String)
  | incompatibleVersion (missing : String)
  | notBound
  deriving DecidableEq, Repr

namespace BindError

/-- The wording. -/
def message : BindError → String
  | load e => e.message
  | noLibrary tried =>
    "No interpreter library found (tried: " ++ String.intercalate ", " tried ++ ")"
  | missingSymbol name => "Required interpreter symbol missing: " ++ name
  | incompatibleVersion missing =>
    "Interpreter runtime too old: " ++ missing ++ " unavailable (Python 3 required)"
  | notBound => "Interpreter runtime not bound"

/-- The error as it is reported. -/
def report (e : BindError) : Report :=
  match e with
  | load inner => inner.report
  | noLibrary _ => ⟨"NoLibrary", e.message⟩
  | missingSymbol _ => ⟨"MissingSymbol", e.message⟩
  | incompatibleVersion _ => ⟨"IncompatibleVersion", e.message⟩
  | notBound => ⟨"NotBound", e.message⟩

/-- The wording of each wrapped error, outermost first. -/
def causes : BindError → List String
  | load e => [e.message]
  | _ => []

end BindError

/-- Why an entry was not made. -/
inductive RegistryError where
  | duplicateIdentifier (id : Ident)
  deriving DecidableEq, Repr

namespace RegistryError

/-- The wording. -/
def message : RegistryError → String
  | duplicateIdentifier id => "Identifier already registered: " ++ id.text

/-- The error as it is reported. -/
def report (e : RegistryError) : Report :=
  ⟨"DuplicateIdentifier", e.message⟩

end RegistryError

/-- Why arguments or a result could not cross the boundary. -/
inductive ArgumentError where
  | mismatch (expected : InputKind)
  | coercion (found expected : OutputKind)
  | overflow (n : Int64)
  | interiorNul
  deriving DecidableEq, Repr

namespace ArgumentError

/-- The wording. -/
def message : ArgumentError → String
  | mismatch expected => "Argument mismatch: expected (" ++ expected.typeName ++ ")"
  | coercion found expected =>
    "Cannot convert " ++ found.typeName ++ " result to " ++ expected.typeName
  | overflow n => "Integer result " ++ toString n.toInt ++ " overflows native long"
  | interiorNul => "Text result contains an interior NUL byte"

/-- The error as it is reported. -/
def report (e : ArgumentError) : Report :=
  match e with
  | mismatch _ => ⟨"Mismatch", e.message⟩
  | coercion .. => ⟨"Coercion", e.message⟩
  | overflow _ => ⟨"Overflow", e.message⟩
  | interiorNul => ⟨"InteriorNul", e.message⟩

end ArgumentError

/-- Why a closure could not be exposed, or a lambda written as source text not be had. -/
inductive LambdaError where
  | bind (e : BindError)
  | unsupportedShape (shape : Shape)
  | duplicateIdentifier (id : Ident)
  | callableConstruction (id : Ident)
  | invalidIdentifier (text : String)
  | introducerKeyword
  | missingSeparator
  | evaluation (reason : String)
  deriving DecidableEq, Repr

namespace LambdaError

/-- The wording. -/
def message : LambdaError → String
  | bind e => e.message
  | unsupportedShape shape => "Unsupported lambda shape " ++ shape.display
  | duplicateIdentifier id => "Identifier already registered: " ++ id.text
  | callableConstruction id => "Could not build callable for " ++ id.text
  | invalidIdentifier text => "Invalid lambda identifier: " ++ Quoted.text text
  | introducerKeyword => "String lambda must not start with the 'lambda' keyword"
  | missingSeparator => "String lambda needs ':' between parameters and body"
  | evaluation reason => "String lambda evaluation failed: " ++ reason

/-- The error as it is reported. -/
def report (e : LambdaError) : Report :=
  match e with
  | bind inner => inner.report
  | unsupportedShape _ => ⟨"UnsupportedShape", e.message⟩
  | duplicateIdentifier _ => ⟨"DuplicateIdentifier", e.message⟩
  | callableConstruction _ => ⟨"CallableConstruction", e.message⟩
  | invalidIdentifier _ => ⟨"InvalidIdentifier", e.message⟩
  | introducerKeyword => ⟨"IntroducerKeyword", e.message⟩
  | missingSeparator => ⟨"MissingSeparator", e.message⟩
  | evaluation _ => ⟨"Evaluation", e.message⟩

/-- The wording of each wrapped error, outermost first. -/
def causes : LambdaError → List String
  | bind e => e.message :: e.causes
  | _ => []

/-- A refused entry is a refused lambda. -/
def ofRegistry : RegistryError → LambdaError
  | .duplicateIdentifier id => duplicateIdentifier id

end LambdaError

/-- Why a configuration was refused. -/
inductive ConfigError where
  | io (reason : String)
  | parse (reason : String)
  | invalid (reason : String)
  deriving DecidableEq, Repr

namespace ConfigError

/-- The wording. -/
def message : ConfigError → String
  | io reason => "Failed to read config: " ++ reason
  | parse reason => "Failed to parse config: " ++ reason
  | invalid reason => "Invalid config: " ++ reason

/-- The error as it is reported. The reader's own words about a text it cannot parse are left
out. -/
def report (e : ConfigError) : Report :=
  match e with
  | io _ => ⟨"Io", e.message⟩
  | parse _ => ⟨"Parse", none⟩
  | invalid _ => ⟨"Invalid", e.message⟩

end ConfigError

/-- Why a session could not be set up. -/
inductive Error where
  | config (e : ConfigError)
  | bind (e : BindError)
  | lambda (e : LambdaError)
  deriving DecidableEq, Repr

namespace Error

/-- The wording. -/
def message : Error → String
  | config e => e.message
  | bind e => e.message
  | lambda e => e.message

/-- The error as it is reported. -/
def report : Error → Report
  | config e => e.report
  | bind e => e.report
  | lambda e => e.report

/-- The wording of each wrapped error, outermost first. -/
def causes : Error → List String
  | config e => [e.message]
  | bind e => e.message :: e.causes
  | lambda e => e.message :: e.causes

/-- The wording of an error is that of the first error it wraps. -/
theorem causes_eq_cons (e : Error) : ∃ rest, e.causes = e.message :: rest := by
  cases e <;> exact ⟨_, rfl⟩

end Error

end ClosureBridge
