import ClosureBridge.Path
import ClosureBridge.Text.Utf8

/-!
# A tree of files

A tree is kept as the list of its files and directories by place; a directory also exists because
something lies below it. A path is followed one piece after the other, through directories only,
from the current directory or, when it starts with a slash, from the top.

## Main definitions

* `FileTree`: the tree.
* `FileTree.at?`: what lies at a place.
* `FileTree.place`: the place that a path leads to.
* `FileTree.read`, `FileTree.write`, `FileTree.touch`: the files.
* `FileTree.makeDirectories`: the directories on a path.

## Main statements

* `FileTree.at?_put_self`, `FileTree.at?_nil`: what is put at a place lies there, and there is
  always a place to start from.
-/

namespace ClosureBridge

/-- The names that lead to a file or directory, the last one first. -/
abbrev Place := List (List Char)

/-- What lies at a place. -/
inductive FileEntry where
  | file (octets : List UInt8)
  | directory
  deriving DecidableEq, Repr

/-- Why a file could not be read or written. -/
inductive FileError where
  | missing
  | taken
  | notDirectory
  | isDirectory
  | nameTooLong
  | nulInPath
  | notText
  deriving DecidableEq, Repr

namespace FileError

/-- The system's number for a cause that the system reports. -/
def code? : FileError → Option Nat
  | missing => some 2
  | taken => some 17
  | notDirectory => some 20
  | isDirectory => some 21
  | nameTooLong => some 36
  | nulInPath => none
  | notText => none

/-- The name of the kind that a cause is of. -/
def kind : FileError → String
  | missing => "NotFound"
  | taken => "AlreadyExists"
  | notDirectory => "NotADirectory"
  | isDirectory => "IsADirectory"
  | nameTooLong => "InvalidFilename"
  | nulInPath => "InvalidInput"
  | notText => "InvalidData"

/-- The wording, without the number. -/
def words : FileError → String
  | missing => "No such file or directory"
  | taken => "File exists"
  | notDirectory => "Not a directory"
  | isDirectory => "Is a directory"
  | nameTooLong => "File name too long"
  | nulInPath => "file name contained an unexpected NUL byte"
  | notText => "stream did not contain valid UTF-8"

/-- The wording. -/
def message (e : FileError) : String :=
  match e.code? with
  | some n => e.words ++ " (os error " ++ toString n ++ ")"
  | none => e.words

/-- A cause in diagnostics. -/
def describe (e : FileError) : String :=
  let start := match e.code? with
    | some n => "Os \x7b code: " ++ toString n ++ ", "
    | none => "Error \x7b "
  start ++ "kind: " ++ e.kind ++ ", message: \"" ++ e.words ++ "\" \x7d"

end FileError

/-- A tree of files; of two entries at one place the first counts. -/
structure FileTree where
  entries : List (Place × FileEntry) := []
  deriving DecidableEq, Repr

namespace FileTree

/-- What lies at a place. -/
def at? (tree : FileTree) (place : Place) : Option FileEntry :=
  match tree.entries.find? (·.1 == place) with
  | some (_, entry) => some entry
  | none =>
    if place.isEmpty || tree.entries.any fun e => place.isSuffixOf e.1 then some .directory
    else none

/-- Put something at a place. -/
def put (tree : FileTree) (place : Place) (entry : FileEntry) : FileTree :=
  ⟨(place, entry) :: tree.entries⟩

/-- The places of the files. -/
def files (tree : FileTree) : List Place :=
  (tree.entries.filter fun e => e.2 != .directory).map (·.1)

/-- The greatest length of a name, in octets. -/
def maxName : Nat := 255

/-- The greatest length of a path, in octets. -/
def maxPath : Nat := 4095

/-- Whether a name is longer than names can be. -/
def isTooLong (name : List Char) : Bool :=
  maxName < (String.ofList name).utf8ByteSize

/-- Enter a directory at a place by a name. -/
def enter (tree : FileTree) (place : Place) (name : List Char) : Except FileError Place :=
  match tree.at? place with
  | none => .error .missing
  | some (.file _) => .error .notDirectory
  | some .directory =>
    if Path.isVoid name then .ok place
    else if name = ['.', '.'] then .ok place.tail
    else if isTooLong name then .error .nameTooLong
    else .ok (name :: place)

/-- The pieces of a path between its slashes. -/
def pieces (path : String) : Except FileError (List (List Char)) :=
  if path.toList.contains '\x00' then .error .nulInPath
  else if maxPath < path.utf8ByteSize then .error .nameTooLong
  else if path.toList.isEmpty then .error .missing
  else .ok (Split.onChar (· == '/') path.toList)

/-- The place that a path is followed from. -/
def start (current : Place) (path : String) : Place :=
  if path.toList.head? = some '/' then [] else current

/-- The place that a path leads to, whether anything lies there or not. -/
def place (tree : FileTree) (current : Place) (path : String) : Except FileError Place := do
  (← pieces path).foldlM tree.enter (start current path)

/-- The octets of the file at a path. -/
def octets (tree : FileTree) (current : Place) (path : String) :
    Except FileError (List UInt8) := do
  match tree.at? (← tree.place current path) with
  | none => .error .missing
  | some .directory => .error .isDirectory
  | some (.file octets) => .ok octets

/-- The text of the file at a path. -/
def read (tree : FileTree) (current : Place) (path : String) : Except FileError String := do
  match Utf8.decode? (← tree.octets current path) with
  | none => .error .notText
  | some text => .ok text

/-- The place of the file that is opened for writing at a path. A path that ends with a slash is
that of a directory. -/
def target (tree : FileTree) (current : Place) (path : String) : Except FileError Place := do
  let all ← pieces path
  match all.reverse.dropWhile List.isEmpty with
  | [] => .error .isDirectory
  | last :: before =>
    let parent ← before.reverse.foldlM tree.enter (start current path)
    let place ← tree.enter parent last
    if all.getLast? = some [] then .error .isDirectory
    else if tree.at? place = some .directory then .error .isDirectory
    else .ok place

/-- The tree after a text was written to the file at a path. -/
def write (tree : FileTree) (current : Place) (path text : String) :
    Except FileError FileTree := do
  return tree.put (← tree.target current path) (.file text.toUTF8.toList)

/-- The tree after the file at a path was opened, and made if there was none. -/
def touch (tree : FileTree) (current : Place) (path : String) : Except FileError FileTree := do
  let place ← tree.target current path
  return if (tree.at? place).isSome then tree else tree.put place (.file [])

/-- Make the directories that are missing on the way from a place. -/
def makeAlong (tree : FileTree) (place : Place) : List (List Char) → Except FileError FileTree
  | [] => .ok tree
  | name :: rest =>
    if Path.isVoid name then tree.makeAlong place rest
    else if name = ['.', '.'] then tree.makeAlong place.tail rest
    else if isTooLong name then .error .nameTooLong
    else
      match tree.at? (name :: place) with
      | none => (tree.put (name :: place) .directory).makeAlong (name :: place) rest
      | some .directory => tree.makeAlong (name :: place) rest
      | some (.file _) => .error (if rest.isEmpty then .taken else .notDirectory)

/-- The tree after the directories on a path were made. -/
def makeDirectories (tree : FileTree) (current : Place) (path : String) :
    Except FileError FileTree := do
  tree.makeAlong (start current path) (← pieces path)

/-- The path of a place. -/
def pathOf (place : Place) : String :=
  String.ofList (Path.glue place)

@[simp] theorem at?_put_self (tree : FileTree) (place : Place) (entry : FileEntry) :
    (tree.put place entry).at? place = some entry := by
  simp [at?, put]

theorem at?_nil (tree : FileTree) : (tree.at? []).isSome = true := by
  unfold at?
  split <;> rfl

end FileTree

end ClosureBridge
