/-!
# Blanks, comments and line ends

## Main definitions

* `Blank.skip`: pass blanks.
* `Blank.skipComment`: pass a comment.
* `Blank.skipLines`: pass blanks, comments and line ends.
* `Blank.newline?`: pass a line end.
* `Blank.lineEnd?`: pass what may stand between a statement and the next line.
-/

namespace ClosureBridge.Toml.Blank

/-- A blank within a line. -/
def isBlank (c : Char) : Bool :=
  c == ' ' || c == '\t'

/-- A character that may stand in a text or a comment: every one that is no control, and the
tab. -/
def isShown (c : Char) : Bool :=
  c == '\t' || (' ' ≤ c && c != '\x7f')

/-- Pass blanks. -/
def skip (text : List Char) : List Char :=
  text.dropWhile isBlank

/-- Pass a line end. -/
def newline? : List Char → Option (List Char)
  | '\n' :: rest => some rest
  | '\r' :: '\n' :: rest => some rest
  | _ => none

/-- Pass a line end, if there is one. -/
def skipNewline (text : List Char) : List Char :=
  (newline? text).getD text

/-- Pass a comment, if there is one. -/
def skipComment : List Char → List Char
  | '#' :: rest => rest.dropWhile isShown
  | text => text

/-- Pass blanks, comments and line ends; the flag tells that a comment has begun. -/
def skipFrom : Bool → List Char → List Char
  | _, '\n' :: rest => skipFrom false rest
  | _, '\r' :: '\n' :: rest => skipFrom false rest
  | true, c :: rest => if isShown c then skipFrom true rest else c :: rest
  | false, '#' :: rest => skipFrom true rest
  | false, c :: rest => if isBlank c then skipFrom false rest else c :: rest
  | _, [] => []

/-- Pass blanks, comments and line ends. -/
def skipLines (text : List Char) : List Char :=
  skipFrom false text

/-- Pass blanks and a comment, and then the line end, unless the text ends. -/
def lineEnd? (text : List Char) : Option (List Char) :=
  match skipComment (skip text) with
  | [] => some []
  | rest => newline? rest

@[simp] theorem lineEnd?_newline (rest : List Char) : lineEnd? ('\n' :: rest) = some rest := rfl

end ClosureBridge.Toml.Blank
