import ClosureBridge.Native.Symbols
import ClosureBridge.Native.Tape
import ClosureBridge.Number.FloatText

/-!
# A bound image behind the interface

## Main definitions

* `Native.parseTuple`, `Native.buildValue`, `Native.takeText`, …: the operations of an interpreter
  by calls of its native interface.
* `Native.interface`: all operations.
-/

namespace ClosureBridge.Native

open Tape

/-- The value that an integer slot ends with. -/
def longOf : List Slot → Int64
  | .text s :: _ => ((s.toInt?).bind Word.ofInt?).getD 0
  | _ => 0

/-- The value that a float slot ends with. -/
def doubleOf : List Slot → Float
  | .text s :: _ => (FloatText.read? s.toList).getD 0.0
  | _ => 0.0

/-- The text that a text slot ends with, if it points anywhere. -/
def textOfSlots : List Slot → Option String
  | .text s :: _ => some s
  | .octets b :: _ => some (Utf8.decodeLossy b)
  | _ => none

/-- The pointer that a slot ends with. -/
def pointerOf : Option Slot → Option Ref
  | some (.token n) => toPointer n
  | _ => none

/-- The pointers that a number of slots end with, unless one is missing. -/
def pointersOf (count : Nat) (slots : List Slot) : Option (List Ref) :=
  (List.range count).mapM fun n => pointerOf slots[n]?

/-- What was stored, by the format. -/
def unpack (format : TupleFormat) (slots : List Slot) : Option Unpacked :=
  match format with
  | .long => some (.long (longOf slots))
  | .double => some (.double (doubleOf slots))
  | .text => (textOfSlots slots).map .text
  | _ => (pointersOf format.arity slots).map .objects

/-- Unpack an argument tuple. -/
def parseTuple (args : Option Ref) (format : TupleFormat) : Quiet Tape (Option Unpacked) := do
  match ← unpacked "PyArg_ParseTuple" [pointerJson args, .text format.code] with
  | some slots => return unpack format slots
  | none => return none

/-- Build an object. -/
def buildValue (v : Built) : Quiet Tape (Option Ref) :=
  let build (args : List Json) : Quiet Tape (Option Ref) := pointer "Py_BuildValue" args
  match v with
  | .none => build [.text ""]
  | .long n => build [.text "l", .text (toString n.toInt)]
  | .double v => build [.text "d", .text (FloatText.write v)]
  | .text s => build [.text "s", .text s]
  | .boolean b => pointer "PyBool_FromLong" [.number (if b then 1 else 0)]
  | .object r => build [.text "O", .number r]

/-- A descriptor in the record of a call. -/
def descriptorJson (d : Descriptor) : Json :=
  .record [("name", .text d.name), ("flags", .count d.flags),
    ("dispatch", .bool (d.entry = some .router)), ("doc", .bool d.doc.isSome)]

/-- Build a callable. -/
def newCallable (d : Nat) (self : Ref) : Quiet Tape (Option Ref) := do
  let pool ← readThe DescriptorPool
  pointer "PyCFunction_NewEx"
    [Json.optional descriptorJson pool.all[d]?, .count self, .null]

/-- The text of a text object; an object that is none leaves no error pending. -/
def textOf (r : Option Ref) : Quiet Tape (Option String) := do
  if r.isNone then return none
  else
    match ← octets "PyUnicode_AsUTF8" [pointerJson r] with
    | some b => return some (Utf8.decodeLossy b)
    | none =>
      record "PyErr_Clear" []
      return none

/-- Take a reference. -/
def incref (r : Option Ref) : Quiet Tape Unit := do
  if r.isSome then record "Py_IncRef" [pointerJson r]

/-- Give a reference back. -/
def decref (r : Option Ref) : Quiet Tape Unit := do
  if r.isSome then record "Py_DecRef" [pointerJson r]

/-- The text that a function makes of an object, by way of a text object that is given back. -/
def takeText (function : String) (r : Option Ref) : Quiet Tape (Option String) := do
  if r.isNone then return none
  else
    let made ← pointer function [pointerJson r]
    let text ← textOf made
    decref made
    return text

/-- The main namespace. -/
def mainDict : Quiet Tape (Option Ref) := do
  match ← pointer "PyImport_AddModule" [.text "__main__"] with
  | none => return none
  | some module => pointer "PyModule_GetDict" [.count module]

/-- The operations of a bound image. Code of the host is reached only through a callable, which
the tape never calls. -/
def interface {ι : Type} (lift : {α : Type} → Quiet Tape α → Quiet ι α)
    (textConstructor : Bool) : Interpreter ι where
  parseTuple args format := lift (parseTuple args format)
  buildValue v := lift (buildValue v)
  newText text := lift do
    if textConstructor then return .ok (← pointer Symbols.constructor [.text text])
    else return .error (.incompatibleVersion Symbols.constructor)
  newCallable d self := lift (newCallable d self)
  textOf r := lift (textOf r)
  strOf r := lift (takeText "PyObject_Str" r)
  reprOf r := lift (takeText "PyObject_Repr" r)
  incref r := lift (incref r)
  decref r := lift (decref r)
  mainDict := lift mainDict
  newDict := lift (pointer "PyDict_New" [])
  builtins := lift (pointer "PyEval_GetBuiltins" [])
  dictGet scope name :=
    lift (optionalPointer "PyDict_GetItemString" [pointerJson scope, .text name])
  dictSet scope name value := lift do
    return (← status "PyDict_SetItemString"
      [pointerJson scope, .text name, pointerJson value]) = 0
  getAttr object name :=
    lift (pointer "PyObject_GetAttrString" [pointerJson object, .text name])
  setAttr object name value := lift do
    return (← status "PyObject_SetAttrString"
      [pointerJson object, .text name, pointerJson value]) = 0
  compile text name mode :=
    lift (pointer "Py_CompileString" [.text text, .text name, .count mode.code])
  errorOccurred := lift do
    return (← optionalPointer "PyErr_Occurred" []).isSome
  printError := lift (record "PyErr_Print" [])
  clearError := lift (record "PyErr_Clear" [])
  raiseRuntimeError message :=
    lift (record "PyErr_SetString" [.number 1, .text message])
  ensureStarted := lift do
    if (← status "Py_IsInitialized" []) = 0 then record "Py_Initialize" []
  runString source mode scope :=
    (lift (pointer "PyRun_String"
      [.text source, .count mode.code, pointerJson scope, pointerJson scope])).run
  runSimple source := do
    return (← (lift (status "PyRun_SimpleString" [.text source])).run) = 0

end ClosureBridge.Native
