import ClosureBridge.Text.Lines

/-!
# Paths

A path is a head and pieces with slashes between them. Empty pieces and single dots carry no
meaning and are read over from the end; elsewhere they are kept, so the text of a parent is a
beginning of the path's text.

## Main definitions

* `Path`: a path.
* `Path.ofChars`, `Path.chars`: between a path and its text.
* `Path.parent?`, `Path.fileName?`, `Path.ancestors`, `Path.join`.
* `Path.below?`: the pieces that a path from a directory stands for below that directory.
-/

namespace ClosureBridge

/-- What a path starts with. -/
inductive PathHead where
  | plain
  /-- The slash of an absolute path. -/
  | root
  /-- The single dot of a path from here. -/
  | here
  deriving DecidableEq, Repr

/-- A path. -/
structure Path where
  head : PathHead
  /-- What follows the head, cut at the slashes; the last piece comes first. -/
  reversed : List (List Char)
  deriving DecidableEq, Repr

namespace Path

/-- Whether a path starts with a single dot as a piece of its own. -/
def startsHere : List Char → Bool
  | ['.'] => true
  | '.' :: '/' :: _ => true
  | _ => false

/-- The pieces of a text between its slashes, the last one first. -/
def cut (text : List Char) : List (List Char) :=
  (Split.onChar (· == '/') text).reverse

/-- The path with a given text. -/
def ofChars (text : List Char) : Path :=
  match text with
  | '/' :: rest => ⟨.root, cut rest⟩
  | text => if startsHere text then ⟨.here, cut text.tail⟩ else ⟨.plain, cut text⟩

/-- The text of pieces, the last one first. -/
def glue : List (List Char) → List Char
  | [] => []
  | [piece] => piece
  | piece :: before => glue before ++ '/' :: piece

/-- The text of a path. -/
def chars (p : Path) : List Char :=
  let head := match p.head with
    | .plain => []
    | .root => ['/']
    | .here => ['.']
  head ++ glue p.reversed

/-- Whether a piece carries no meaning. -/
def isVoid (piece : List Char) : Bool :=
  piece.isEmpty || piece == ['.']

/-- A path without the void pieces at its end. -/
def trim (p : Path) : Path :=
  { p with reversed := p.reversed.dropWhile isVoid }

/-- The path without its last piece, or without its dot when it has no other. -/
def parent? (p : Path) : Option Path :=
  match p.head, p.trim.reversed with
  | head, _ :: before => some (trim ⟨head, before⟩)
  | .here, [] => some ⟨.plain, []⟩
  | _, [] => none

/-- The last piece, unless it leads to the directory above. -/
def fileName? (p : Path) : Option (List Char) :=
  match p.trim.reversed with
  | piece :: _ => if piece = ['.', '.'] then none else some piece
  | [] => none

/-- A path and the parents above it, up to a number of them. -/
def upwards : Nat → Path → List Path
  | 0, p => [p]
  | n + 1, p =>
    match p.parent? with
    | some q => p :: upwards n q
    | none => [p]

/-- A path, its parent, the parent of that, and so on. Each parent has fewer pieces, and only the
one above a dot has as many. -/
def ancestors (p : Path) : List Path :=
  upwards (p.reversed.length + 1) p

/-- A name in the directory of a path. -/
def join (p : Path) (name : List Char) : List Char :=
  let text := p.chars
  if name.head? = some '/' || text.isEmpty then name
  else if text.getLast? = some '/' then text ++ name
  else text ++ '/' :: name

/-- Follow pieces from a place, given by its own pieces with the last one first. -/
def follow : List (List Char) → List (List Char) → Option (List (List Char))
  | place, [] => some place
  | place, piece :: rest =>
    if isVoid piece then follow place rest
    else if piece = ['.', '.'] then
      match place with
      | [] => none
      | _ :: above => follow above rest
    else follow (piece :: place) rest

/-- The pieces that a path from a directory stands for below that directory, the last one first;
none if it leads outside. -/
def below? (text : List Char) : Option (List (List Char)) :=
  match text with
  | '/' :: _ => none
  | text => follow [] (Split.onChar (· == '/') text)

theorem fileName?_of_void {p : Path} (h : ∀ piece ∈ p.reversed, isVoid piece = true) :
    p.fileName? = none := by
  have : p.reversed.dropWhile isVoid = [] := by
    generalize p.reversed = l at h
    induction l with
    | nil => rfl
    | cons a l ih => simp_all
  simp [fileName?, trim, this]

end Path

end ClosureBridge
