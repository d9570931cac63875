import ClosureBridge.Text.Lines

/-!
# Replacing parts of a text

## Main definitions

* `Replace.chars`: every occurrence of a pattern replaced, from the left, none overlapping.
-/

namespace ClosureBridge.Replace

/-- Replace the occurrences of a pattern. `skip` characters of the text belong to an occurrence
that has been replaced already. -/
def charsFrom (pattern replacement : List Char) : Nat → List Char → List Char
  | _, [] => []
  | skip + 1, _ :: rest => charsFrom pattern replacement skip rest
  | 0, c :: rest =>
    if (Split.dropPrefix? pattern (c :: rest)).isSome then
      replacement ++ charsFrom pattern replacement (pattern.length - 1) rest
    else c :: charsFrom pattern replacement 0 rest

/-- Replace the occurrences of a pattern, which is not empty. -/
def text (pattern replacement source : String) : String :=
  String.ofList (charsFrom pattern.toList replacement.toList 0 source.toList)

end ClosureBridge.Replace
