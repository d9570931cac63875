import ClosureBridge.Text.Table.Alphabetic
import ClosureBridge.Text.Table.Numeric
import ClosureBridge.Text.Table.GraphemeExtend
import ClosureBridge.Text.Table.Unprintable

/-!
# Character categories

The scripting language, the cell reader and the configuration all classify characters by their
Unicode properties. The ASCII part of each category is decided directly; a table answers for the
rest.

## Main definitions

* `Category.isBlank`: the property White_Space.
* `Category.isAlphabetic`, `Category.isNumeric`, `Category.isAlphanumeric`.
* `Category.isPrintable`, `Category.isCombining`: what a quoted text shows as it is.
-/

namespace ClosureBridge.Category

/-- A character with the property White_Space. -/
def isBlank (c : Char) : Bool :=
  c == ' ' || ('\t' ≤ c && c ≤ '\r') || c == '\x85' || c == '\xa0' || c == '\u1680' ||
    ('\u2000' ≤ c && c ≤ '\u200a') || c == '\u2028' || c == '\u2029' || c == '\u202f' ||
    c == '\u205f' || c == '\u3000'

/-- A character with the property Alphabetic. -/
def isAlphabetic (c : Char) : Bool :=
  if c.toNat < 128 then c.isAlpha else CharSet.alphabetic.contains c

/-- A decimal digit, letter number or other number. -/
def isNumeric (c : Char) : Bool :=
  if c.toNat < 128 then c.isDigit else CharSet.numeric.contains c

/-- A letter or a number. -/
def isAlphanumeric (c : Char) : Bool :=
  isAlphabetic c || isNumeric c

/-- A character that only modifies the one before it. -/
def isCombining (c : Char) : Bool :=
  CharSet.graphemeExtend.contains c

/-- A letter that holds a place in a Korean syllable and shows nothing. -/
def isFiller (c : Char) : Bool :=
  c == '\u115f' || c == '\u1160' || c == '\u3164' || c == '\uffa0'

/-- A character that has a glyph of its own or is the space. -/
def isPrintable (c : Char) : Bool :=
  if c.toNat < 128 then ' ' ≤ c && c ≤ '~' else !(isFiller c || CharSet.unprintable.contains c)

/-- What core calls white space has the property White_Space too. -/
theorem isBlank_of_isWhitespace {c : Char} (h : c.isWhitespace = true) : isBlank c = true := by
  simp only [Char.isWhitespace, Bool.or_eq_true, decide_eq_true_eq] at h
  rcases h with ((rfl | rfl) | rfl) | rfl <;> rfl

end ClosureBridge.Category
