import ClosureBridge.Image

/-!
# The entry points of an image

An image can be bound when it exports all entry points but one: an interpreter that cannot build
text objects can still run source.

## Main definitions

* `Symbols.constructor`: the entry point that may be missing.
* `Symbols.required`: those that may not, in the order in which they are looked up.
* `Symbols.resolve`: look all of them up.
* `Symbols.exported`: what a complete image exports.
-/

namespace ClosureBridge.Native.Symbols

/-- The entry point that may be missing. -/
def constructor : String := "PyUnicode_FromString"

/-- The entry points that may not be missing, in the order in which they are looked up. -/
def required : List String := [
  "PyExc_RuntimeError", "PyArg_ParseTuple", "Py_BuildValue", "PyUnicode_AsUTF8",
  "PyBool_FromLong", "PyCFunction_NewEx", "PyRun_String", "PyErr_Print", "PyErr_Clear",
  "PyErr_Occurred", "PyErr_SetString", "PyDict_GetItemString", "PyDict_SetItemString",
  "PyDict_New", "PyEval_GetBuiltins", "PyImport_AddModule", "PyModule_GetDict",
  "PyObject_GetAttrString", "PyObject_SetAttrString", "PyObject_Str", "PyObject_Repr",
  "Py_IncRef", "Py_DecRef", "Py_CompileString", "PyRun_SimpleString", "Py_IsInitialized",
  "Py_Initialize"]

/-- What a complete image exports. -/
def exported : List String :=
  constructor :: required

/-- Look the entry points up: whether the one that may be missing is there, or the first one that
may not be and is. -/
def resolve (image : Image) : Except BindError Bool :=
  match required.find? fun name => !image.symbols.contains name with
  | some name => .error (.missingSymbol name)
  | none => .ok (image.symbols.contains constructor)

/-- A resolved table in diagnostics. -/
def describe (image : Image) (textConstructor : Bool) : String :=
  "PythonApi \x7b library: " ++ image.describe ++ ", text_constructor: " ++
    (if textConstructor then "true" else "false") ++ " \x7d"

end ClosureBridge.Native.Symbols
