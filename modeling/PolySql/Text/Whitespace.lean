import PolySql.Text.CharRange

/-!
# White space

The `White_Space` property of Unicode, and the two readings of a text that rest on it: `trim`
drops it at both ends, `words` are the runs between it, and `squeeze` joins the words again with
single spaces.
-/

namespace PolySql.Text

/-- The code points of the property `White_Space`. -/
def whitespaceRanges : CharRanges :=
  [(0x9, 0xd), (0x20, 0x20), (0x85, 0x85), (0xa0, 0xa0), (0x1680, 0x1680), (0x2000, 0x200a),
    (0x2028, 0x2029), (0x202f, 0x202f), (0x205f, 0x205f), (0x3000, 0x3000)]

def isWhitespace (c : Char) : Bool := whitespaceRanges.contains c

/-- The characters without the white space at the front. -/
def trimStart (cs : List Char) : List Char := cs.dropWhile isWhitespace

/-- The characters without the white space at either end. -/
def trimChars (cs : List Char) : List Char := (trimStart (trimStart cs).reverse).reverse

/-- The text without the white space at either end. -/
def trim (s : String) : String := String.ofList (trimChars s.toList)

/-- The longest runs without white space, in order. -/
def wordChars (cs : List Char) : List (List Char) :=
  (cs.splitOnP isWhitespace).filter fun word => !word.isEmpty

/-- The longest runs without white space, in order. -/
def words (s : String) : List String := (wordChars s.toList).map String.ofList

/-- The words with one space between neighbours and none at the ends. -/
def squeeze (s : String) : String := " ".intercalate (words s)

/-- What core counts as white space has the property. -/
theorem isWhitespace_of_isWhitespace {c : Char} (h : c.isWhitespace = true) :
    isWhitespace c = true := by
  have hc : c = ' ' ∨ c = '\t' ∨ c = '\r' ∨ c = '\n' := by
    simpa [Char.isWhitespace, or_assoc] using h
  rcases hc with rfl | rfl | rfl | rfl <;> decide

end PolySql.Text
