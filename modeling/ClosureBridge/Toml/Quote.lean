import ClosureBridge.Number.Radix
import ClosureBridge.Toml.Blank

/-!
# Texts between quotes

A text stands between double quotes, with escapes, or between single quotes, as it is; one quote on
each side keeps it on one line, three let it span lines.

## Main definitions

* `Quote`: the four ways to quote.
* `Quote.read?`: read a text in any of them.
* `Quote.readShort?`: read a text on one line.
* `Quote.ofText`: the way in which a text is written.
* `Quote.write`: a text between quotes.

## Main statements

* `Quote.unescape?_of_escapeLetter?`: the letter of an escape is read as what it stands for.
-/

namespace ClosureBridge.Toml

/-- A way to quote. -/
structure Quote where
  /-- Whether the text is written as it is, between single quotes. -/
  verbatim : Bool
  /-- Whether three quotes stand on each side, and lines may end between them. -/
  long : Bool
  deriving DecidableEq, Repr

namespace Quote

/-- The character that quotes. -/
def mark (q : Quote) : Char :=
  if q.verbatim then '\'' else '"'

/-- How many quotes stand on each side. -/
def width (q : Quote) : Nat :=
  if q.long then 3 else 1

/-! ### Reading -/

/-- The end of a text: the closing quotes, and in a long text up to two quotes before them that
are its last characters. Gives these characters and what follows. -/
def close? (q : Quote) (text : List Char) : Option (List Char × List Char) :=
  let run := (text.takeWhile (· == q.mark)).length
  if run < q.width then none
  else
    let extra := if q.long then min (run - q.width) 2 else 0
    some (text.take extra, text.drop (extra + q.width))

/-- The character that stands for another one after a backslash. -/
def unescape? : Char → Option Char
  | 'b' => some '\x08'
  | 't' => some '\t'
  | 'n' => some '\n'
  | 'f' => some '\x0c'
  | 'r' => some '\r'
  | '"' => some '"'
  | '\\' => some '\\'
  | _ => none

/-- The character with a code point. -/
def scalar? (n : Nat) : Option Char :=
  if n.isValidChar then some (Char.ofNat n) else none

/-- A character before the text that is read after it. -/
def push (c : Char) : Option (List Char × List Char) → Option (List Char × List Char) :=
  Option.map fun (text, rest) => (c :: text, rest)

/-- What the reader is inside of. -/
inductive State where
  | plain
  /-- A code point, of which some digits are still to come. -/
  | code (owed value : Nat)
  /-- The blanks and line ends after an escaped line end. -/
  | folded
  deriving DecidableEq, Repr

/-- Whether only blanks stand before the end of the line. -/
def endsLine (text : List Char) : Bool :=
  (Blank.newline? (Blank.skip text)).isSome

/-- Read a text with escapes, from after its opening quotes to after its closing ones. -/
def readEscaped (long : Bool) : State → List Char → Option (List Char × List Char)
  | _, [] => none
  | .code owed value, c :: rest => do
    let value := 16 * value + (← Radix.digit? c)
    if owed ≤ 1 then push (← scalar? value) (readEscaped long .plain rest)
    else readEscaped long (.code (owed - 1) value) rest
  | state, c :: rest =>
    if state = .folded ∧ (Blank.isBlank c ∨ c = '\n') then readEscaped long .folded rest
    else
      match close? ⟨false, long⟩ (c :: rest) with
      | some done => some done
      | none =>
        match c, rest with
        | '\\', 'u' :: more => readEscaped long (.code 4 0) more
        | '\\', 'U' :: more => readEscaped long (.code 8 0) more
        | '\\', e :: more =>
          match unescape? e with
          | some c => push c (readEscaped long .plain more)
          | none =>
            if long && endsLine (e :: more) then readEscaped long .folded (e :: more) else none
        | '\\', [] => none
        | '\r', '\n' :: more =>
          if !long then none
          else if state = .folded then readEscaped long .folded more
          else push '\n' (readEscaped long .plain more)
        | c, rest =>
          if Blank.isShown c || (long && c == '\n') then push c (readEscaped long .plain rest)
          else none

/-- Read a text that stands as it is, from after its opening quotes to after its closing ones. -/
def readVerbatim (long : Bool) : List Char → Option (List Char × List Char)
  | [] => none
  | c :: rest =>
    match close? ⟨true, long⟩ (c :: rest) with
    | some done => some done
    | none =>
      match c, rest with
      | '\r', '\n' :: more => if long then push '\n' (readVerbatim long more) else none
      | c, rest =>
        if Blank.isShown c || (long && c == '\n') then push c (readVerbatim long rest) else none

/-- Read a text on one line. -/
def readShort? : List Char → Option (List Char × List Char)
  | '"' :: rest => readEscaped false .plain rest
  | '\'' :: rest => readVerbatim false rest
  | _ => none

/-- Read a text. A line end right after three opening quotes is no part of it. -/
def read? : List Char → Option (List Char × List Char)
  | '"' :: '"' :: '"' :: rest => readEscaped true .plain (Blank.skipNewline rest)
  | '\'' :: '\'' :: '\'' :: rest => readVerbatim true (Blank.skipNewline rest)
  | text => readShort? text

/-! ### Writing -/

/-- The length of the longest run of a character, and of the run that a text starts with. -/
def runs (mark : Char) : List Char → Nat × Nat
  | [] => (0, 0)
  | c :: rest =>
    let (longest, first) := runs mark rest
    if c = mark then (max longest (first + 1), first + 1) else (longest, 0)

/-- The length of the longest run of a character. -/
def longestRun (mark : Char) (text : List Char) : Nat :=
  (runs mark text).1

/-- The longest run of quotes that is counted, the greatest number in an octet. -/
def maxRun : Nat := 255

/-- Whether the runs of quotes in a text can be counted, which has to be done to choose a way to
quote. -/
def isCountable (text : List Char) : Bool :=
  longestRun '\'' text ≤ maxRun && longestRun '"' text ≤ maxRun

/-- A control that can only be written as an escape. -/
def isHidden (c : Char) : Bool :=
  c != '\n' && !Blank.isShown c

/-- Whether a text can be written in a way without any escape other than that of a tab. -/
def suits (q : Quote) (text : List Char) : Bool :=
  !text.any isHidden && (q.verbatim || !text.contains '\\') && (q.long || !text.contains '\n') &&
    longestRun q.mark text < q.width

/-- The ways to quote, the preferred one first. -/
def all : List Quote :=
  [⟨false, false⟩, ⟨true, false⟩, ⟨false, true⟩, ⟨true, true⟩]

/-- The way in which a text is written: the first that suits it, else one with escapes. -/
def ofText (text : List Char) : Quote :=
  (all.find? fun q => q.suits text).getD ⟨false, text.contains '\n'⟩

/-- The letter that stands for a character after a backslash. -/
def escapeLetter? : Char → Option Char
  | '\x08' => some 'b'
  | '\t' => some 't'
  | '\n' => some 'n'
  | '\x0c' => some 'f'
  | '\r' => some 'r'
  | '"' => some '"'
  | '\\' => some '\\'
  | _ => none

/-- The letter that is written for a character is read as that character. -/
theorem unescape?_of_escapeLetter? {c letter : Char} (h : escapeLetter? c = some letter) :
    unescape? letter = some c := by
  unfold escapeLetter? at h
  split at h <;> first | (cases h; rfl) | cases h

/-- The four hexadecimal digits of a number. -/
def fourDigits (n : Nat) : List Char :=
  [n / 4096 % 16, n / 256 % 16, n / 16 % 16, n % 16].map Radix.hexDigit

/-- A character as an escape. -/
def escape (c : Char) : List Char :=
  match escapeLetter? c with
  | some letter => ['\\', letter]
  | none => '\\' :: 'u' :: fourDigits c.toNat

/-- Whether a character needs an escape, after a number of double quotes. In a long text a line
end needs none, nor a double quote that is not the third in a row. -/
def needsEscape (long : Bool) (quotes : Nat) (c : Char) : Bool :=
  if c = '"' then !long || 2 ≤ quotes
  else if c = '\n' then !long
  else c == '\\' || c == '\t' || !Blank.isShown c

/-- A text with escapes, after a number of double quotes. -/
def escapeText (long : Bool) : Nat → List Char → List Char
  | _, [] => []
  | quotes, c :: rest =>
    if needsEscape long quotes c then escape c ++ escapeText long 0 rest
    else c :: escapeText long (if c = '"' then quotes + 1 else 0) rest

/-- A text between quotes. A long text that has a line end starts on a line of its own. -/
def write (q : Quote) (text : List Char) : List Char :=
  let quotes := List.replicate q.width q.mark
  let lead := if q.long && text.contains '\n' then ['\n'] else []
  quotes ++ lead ++ (if q.verbatim then text else escapeText q.long 0 text) ++ quotes

end Quote

end ClosureBridge.Toml
