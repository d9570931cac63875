import ClosureBridge.Toml.Moment
import ClosureBridge.Toml.Numeral
import ClosureBridge.Toml.Quote
import ClosureBridge.Toml.Table

/-!
# Reading documents

A document is read into statements, one for each line that is not blank. Each reader takes a text
and gives what it reads and what is left.

Values that hold others are read with a reader for those, so the depth of a value is what the
recursion is on; the readers of long lists recurse on a budget, and since each item takes at least
one character the length of the text is never used up.

## Main definitions

* `Statement`: what a line says.
* `Reader.key?`: read a key.
* `Reader.value?`: read a value.
* `Reader.statements?`: read a document.
-/

namespace ClosureBridge.Toml

/-- What a line says. -/
inductive Statement where
  /-- What follows is in the table of this name. -/
  | table (key : Key)
  /-- What follows is in the next table of this name. -/
  | next (key : Key)
  /-- A key has a value. -/
  | assign (key : Key) (v : Value)

namespace Reader

/-! ### Keys -/

/-- A character of a name without quotes. -/
def isBare (c : Char) : Bool :=
  c.isAlphanum || c == '_' || c == '-'

/-- Read a name. -/
def name? (text : List Char) : Option (String × List Char) :=
  match Quote.readShort? text with
  | some (name, rest) => some (String.ofList name, rest)
  | none =>
    let name := text.takeWhile isBare
    if name.isEmpty then none else some (String.ofList name, text.dropWhile isBare)

/-- The greatest number of names in a key, and of values around a value. -/
def maxDepth : Nat := 79

/-- Read a number of names, with points between them and blanks around each. -/
def names? : Nat → List Char → Option (List String × List Char)
  | 0, _ => none
  | n + 1, text => do
    let (name, rest) ← name? (Blank.skip text)
    match Blank.skip rest with
    | '.' :: rest =>
      let (names, rest) ← names? n rest
      return (name :: names, rest)
    | rest => return ([name], rest)

/-- The key with given names. -/
def keyOf? : List String → Option Key
  | [] => none
  | [name] => some ⟨[], name⟩
  | name :: names => (keyOf? names).map fun k => { k with parents := name :: k.parents }

/-- Read a key and the blanks after it. -/
def key? (text : List Char) : Option (Key × List Char) := do
  let (names, rest) ← names? maxDepth text
  return (← keyOf? names, rest)

/-! ### Values -/

/-- A reader of values. -/
abbrev ValueReader := List Char → Option (Value × List Char)

/-- Read a value that holds no other. -/
def scalar? : ValueReader
  | 't' :: 'r' :: 'u' :: 'e' :: rest => some (.boolean true, rest)
  | 'f' :: 'a' :: 'l' :: 's' :: 'e' :: rest => some (.boolean false, rest)
  | text =>
    ((Quote.read? text).map fun (s, rest) => (.text (String.ofList s), rest)) <|>
    ((Moment.read? text).map fun (s, rest) => (.moment (String.ofList s), rest)) <|>
    ((Numeral.float? text).map fun (v, rest) => (.float v, rest)) <|>
    ((Numeral.integer? text).map fun (n, rest) => (.integer n, rest))

/-- Read the items of a list, up to its closing bracket. A comma may follow the last one. -/
def items? (item : ValueReader) : Nat → List Char → Option (List Value × List Char)
  | 0, _ => none
  | n + 1, text =>
    match Blank.skipLines text with
    | ']' :: rest => some ([], rest)
    | text => do
      let (v, rest) ← item text
      match Blank.skipLines rest with
      | ',' :: rest =>
        let (vs, rest) ← items? item n rest
        return (v :: vs, rest)
      | ']' :: rest => return ([v], rest)
      | _ => none

/-- Read a key with its value. -/
def pair? (item : ValueReader) (text : List Char) : Option ((Key × Value) × List Char) := do
  match ← key? text with
  | (key, '=' :: rest) =>
    let (v, rest) ← item (Blank.skip rest)
    return ((key, v), rest)
  | _ => none

/-- Read the keys and values of a table in braces, up to its closing brace. -/
def pairs? (item : ValueReader) : Nat → List Char → Option (List (Key × Value) × List Char)
  | 0, _ => none
  | n + 1, text => do
    let (p, rest) ← pair? item text
    match Blank.skip rest with
    | ',' :: rest =>
      let (ps, rest) ← pairs? item n rest
      return (p :: ps, rest)
    | '}' :: rest => return ([p], rest)
    | _ => none

/-- Read a table in braces, from after its opening brace. -/
def closed? (item : ValueReader) (text : List Char) : Option (Value × List Char) := do
  let (pairs, rest) ←
    match Blank.skip text with
    | '}' :: rest => some ([], rest)
    | text => pairs? item text.length text
  return (.closed (← Table.ofPairs? pairs), rest)

/-- Read a value, given a reader of those that it holds. -/
def valueOf? (item : ValueReader) : ValueReader
  | '[' :: rest => (items? item rest.length rest).map fun (vs, rest) => (.list vs, rest)
  | '{' :: rest => closed? item rest
  | text => scalar? text

/-- Read a value that holds others up to a given depth. -/
def value? : Nat → ValueReader
  | 0 => scalar?
  | n + 1 => valueOf? (value? n)

/-! ### Lines -/

/-- Read a line, if it says anything, and the line end. -/
def line? : List Char → Option (Option Statement × List Char)
  | '[' :: '[' :: rest => do
    match ← key? rest with
    | (key, ']' :: ']' :: rest) => return (some (.next key), ← Blank.lineEnd? rest)
    | _ => none
  | '[' :: rest => do
    match ← key? rest with
    | (key, ']' :: rest) => return (some (.table key), ← Blank.lineEnd? rest)
    | _ => none
  | text =>
    match Blank.lineEnd? text with
    | some rest => some (none, rest)
    | none => do
      let ((key, v), rest) ← pair? (value? maxDepth) text
      return (some (.assign key v), ← Blank.lineEnd? rest)

/-- Read a number of lines. -/
def lines? : Nat → List Char → Option (List Statement)
  | 0, _ => none
  | n + 1, text =>
    match Blank.skip text with
    | [] => some []
    | text => do
      let (s, rest) ← line? text
      return s.toList ++ (← lines? n rest)

/-- Read a document. A byte order mark before it is passed. -/
def statements? (text : List Char) : Option (List Statement) :=
  let text := match text with
    | '\ufeff' :: rest => rest
    | text => text
  lines? (text.length + 1) text

end Reader

end ClosureBridge.Toml
