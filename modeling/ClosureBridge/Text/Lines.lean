import ClosureBridge.Text.Category

/-!
# Lines, margins and splitting

Texts are read as lists of characters, so that every reader of this library can recurse on them.

## Main definitions

* `Lines.ofChars`: the lines of a text, without their ends.
* `Lines.join`: lines put together again, a line feed between two of them.
* `Margin.trimStart`, `Margin.trimEnd`, `Margin.trim`: a text without its blank margins.
* `Split.at?`, `Split.onText?`: the parts before and after a first occurrence.

## Main statements

* `Lines.ofChars_append_newline`: a line feed ends the line before it.
-/

namespace ClosureBridge

namespace Lines

/-- The lines of a text: each ends at a line feed, which it loses together with one carriage
return before it, and an unfinished last line counts when it is not empty. -/
def ofChars : List Char → List (List Char)
  | [] => []
  | '\n' :: rest => [] :: ofChars rest
  | '\r' :: '\n' :: rest => [] :: ofChars rest
  | c :: rest =>
    match ofChars rest with
    | [] => [[c]]
    | line :: more => (c :: line) :: more

/-- Lines written one after another, a line feed between two of them. -/
def join : List (List Char) → List Char
  | [] => []
  | [line] => line
  | line :: more => line ++ '\n' :: join more

@[simp] theorem ofChars_nil : ofChars [] = [] := rfl

@[simp] theorem ofChars_newline (rest : List Char) :
    ofChars ('\n' :: rest) = [] :: ofChars rest := rfl

/-- A text that holds no line feed is one line, unless it is empty. -/
theorem ofChars_of_not_mem {text : List Char} (h : '\n' ∉ text) (hne : text ≠ []) :
    ofChars text = [text] := by
  fun_induction ofChars text with
  | case1 => exact absurd rfl hne
  | case2 => simp at h
  | case3 => simp at h
  | case4 c rest _ _ hrest ih =>
    cases rest with
    | nil => rfl
    | cons d more =>
      have := ih (by simp_all) (by simp)
      simp_all
  | case5 c rest _ _ line more hrest ih =>
    cases rest with
    | nil => simp at hrest
    | cons d tail =>
      have := ih (by simp_all) (by simp)
      simp_all

/-- A line without a carriage return at its end. -/
def dropReturn : List Char → List Char
  | [] => []
  | ['\r'] => []
  | c :: rest => c :: dropReturn rest

/-- A character that begins no line end joins the line that follows it. -/
theorem ofChars_cons {c : Char} {rest line : List Char} {more : List (List Char)}
    (hn : c ≠ '\n') (hr : c = '\r' → rest.head? ≠ some '\n') (h : ofChars rest = line :: more) :
    ofChars (c :: rest) = (c :: line) :: more := by
  rw [ofChars.eq_def]
  split
  · next he => cases he
  · next he =>
    cases he
    exact absurd rfl hn
  · next he =>
    cases he
    exact absurd rfl (hr rfl)
  · next he =>
    cases he
    rw [h]

/-- A line feed ends the line before it, which loses a carriage return at its end. -/
theorem ofChars_append_newline {line : List Char} (h : '\n' ∉ line) (rest : List Char) :
    ofChars (line ++ '\n' :: rest) = dropReturn line :: ofChars rest := by
  induction line using dropReturn.induct with
  | case1 => rfl
  | case2 => rfl
  | case3 c tail hsingle ih =>
    rw [List.mem_cons, not_or] at h
    have htail : ofChars (tail ++ '\n' :: rest) = dropReturn tail :: ofChars rest := ih h.2
    rw [dropReturn.eq_3 c tail hsingle, List.cons_append]
    refine ofChars_cons (Ne.symm h.1) (fun hc => ?_) htail
    cases tail with
    | nil => exact absurd rfl (hsingle hc)
    | cons d tail =>
      intro hd
      cases hd
      exact h.2 List.mem_cons_self

/-- No line holds a line feed. -/
theorem newline_not_mem {text line : List Char} (h : line ∈ ofChars text) : '\n' ∉ line := by
  fun_induction ofChars text generalizing line with
  | case1 => cases h
  | case2 rest ih =>
    rcases List.mem_cons.mp h with rfl | h
    · exact List.not_mem_nil
    · exact ih h
  | case3 rest ih =>
    rcases List.mem_cons.mp h with rfl | h
    · exact List.not_mem_nil
    · exact ih h
  | case4 c rest hn _ hrest ih =>
    rw [List.mem_singleton] at h
    rw [h, List.mem_singleton]
    exact fun hc => hn hc.symm
  | case5 c rest hn _ first more hrest ih =>
    rw [hrest] at ih
    rcases List.mem_cons.mp h with rfl | h
    · rw [List.mem_cons, not_or]
      exact ⟨fun hc => hn hc.symm, ih List.mem_cons_self⟩
    · exact ih (List.mem_cons_of_mem _ h)

end Lines

namespace Margin

/-- A text without the blanks it starts with. -/
def trimStart (text : List Char) : List Char :=
  text.dropWhile Category.isBlank

/-- A text without the blanks it ends with. -/
def trimEnd (text : List Char) : List Char :=
  (text.reverse.dropWhile Category.isBlank).reverse

/-- A text without the blanks it starts and ends with. -/
def trim (text : List Char) : List Char :=
  trimEnd (trimStart text)

/-- A text without the blanks it starts and ends with. -/
def trimString (text : String) : String :=
  String.ofList (trim text.toList)

end Margin

namespace Split

/-- The parts before and after the first character of a kind, if there is one. -/
def at? (p : Char → Bool) : List Char → Option (List Char × List Char)
  | [] => none
  | c :: rest => if p c then some ([], rest) else (at? p rest).map fun (a, b) => (c :: a, b)

/-- The rest of a text after something it starts with, if it does. -/
def dropPrefix? : List Char → List Char → Option (List Char)
  | [], text => some text
  | _ :: _, [] => none
  | p :: ps, c :: text => if p = c then dropPrefix? ps text else none

/-- What follows the first occurrence of a text, if there is one. -/
def afterText? (pattern : List Char) : List Char → Option (List Char)
  | [] => dropPrefix? pattern []
  | c :: rest => dropPrefix? pattern (c :: rest) <|> afterText? pattern rest

/-- The pieces between the characters of a kind. -/
def onChar (p : Char → Bool) : List Char → List (List Char)
  | [] => [[]]
  | c :: rest =>
    if p c then [] :: onChar p rest
    else match onChar p rest with
      | [] => [[c]]
      | piece :: more => (c :: piece) :: more

@[simp] theorem dropPrefix?_append (p text : List Char) :
    dropPrefix? p (p ++ text) = some text := by
  induction p with
  | nil => rfl
  | cons c p ih => simp [dropPrefix?, ih]

end Split

end ClosureBridge
