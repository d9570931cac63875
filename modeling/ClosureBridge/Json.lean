/-!
# Structured answers

What the host is told is a JSON value; its compact text has no blanks and its members are sorted
by name, so equal answers have equal texts.

## Main definitions

* `Json`: a value.
* `Json.compact`: its compact text.
-/

namespace ClosureBridge

/-- A JSON value with whole numbers only. -/
inductive Json where
  | null
  | bool (b : Bool)
  | number (n : Int)
  | text (s : String)
  | list (items : List Json)
  | record (members : List (String × Json))

namespace Json

/-- The lower-case hexadecimal digit of a number below sixteen. -/
def hexDigit (n : Nat) : Char :=
  Nat.digitChar n

/-- A character inside a quoted text. -/
def escape (c : Char) : String :=
  if c = '"' then "\\\""
  else if c = '\\' then "\\\\"
  else if c = '\x08' then "\\b"
  else if c = '\t' then "\\t"
  else if c = '\n' then "\\n"
  else if c = '\x0c' then "\\f"
  else if c = '\r' then "\\r"
  else if c.toNat < 32 then
    "\\u00" ++ String.ofList [hexDigit (c.toNat / 16), hexDigit (c.toNat % 16)]
  else c.toString

/-- A text between quotes. -/
def quote (s : String) : String :=
  "\"" ++ String.join (s.toList.map escape) ++ "\""

/-- Insert a member into members sorted by name. -/
def insertMember (m : String × String) : List (String × String) → List (String × String)
  | [] => [m]
  | n :: rest => if n.1 < m.1 then n :: insertMember m rest else m :: n :: rest

mutual

/-- The compact text of a value. -/
def compact : Json → String
  | null => "null"
  | bool b => if b then "true" else "false"
  | number n => toString n
  | text s => quote s
  | list items => "[" ++ String.intercalate "," (compactItems items) ++ "]"
  | record members =>
    let sorted := (compactMembers members).foldr insertMember []
    "\x7b" ++ String.intercalate "," (sorted.map fun m => quote m.1 ++ ":" ++ m.2) ++ "\x7d"

/-- The compact texts of the items of a list. -/
def compactItems : List Json → List String
  | [] => []
  | item :: rest => compact item :: compactItems rest

/-- The compact texts of the members of a record. -/
def compactMembers : List (String × Json) → List (String × String)
  | [] => []
  | (name, value) :: rest => (name, compact value) :: compactMembers rest

end

/-- A value that may be missing. -/
def optional {α : Type} (f : α → Json) : Option α → Json
  | none => null
  | some a => f a

/-- A list of texts. -/
def texts (items : List String) : Json :=
  list (items.map text)

/-- A natural number. -/
def count (n : Nat) : Json :=
  number n

end Json

end ClosureBridge
