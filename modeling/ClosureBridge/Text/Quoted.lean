import ClosureBridge.Text.Category

/-!
# Quoted texts for diagnostics

A diagnostic shows a text between quotes, so that blanks, controls and combining characters in it
can be told apart.

## Main definitions

* `Quoted.text`: a text between double quotes.
* `Quoted.char`: a character between single quotes.
-/

namespace ClosureBridge.Quoted

/-- The lower-case hexadecimal digits of a number. -/
def hex (n : Nat) : String :=
  String.ofList (Nat.toDigits 16 n)

/-- One character as it stands between a given kind of quotes: the usual backslash escapes, the
code point of what has no glyph of its own, and all else as it is. -/
def escape (quote c : Char) : String :=
  if c = '\x00' then "\\0"
  else if c = '\t' then "\\t"
  else if c = '\r' then "\\r"
  else if c = '\n' then "\\n"
  else if c = '\\' then "\\\\"
  else if c = quote then "\\" ++ quote.toString
  else if Category.isCombining c || !Category.isPrintable c then
    "\\u\x7b" ++ hex c.toNat ++ "\x7d"
  else c.toString

/-- A text between double quotes. -/
def text (s : String) : String :=
  "\"" ++ String.join (s.toList.map (escape '"')) ++ "\""

/-- A character between single quotes. -/
def char (c : Char) : String :=
  "'" ++ escape '\'' c ++ "'"

end ClosureBridge.Quoted
