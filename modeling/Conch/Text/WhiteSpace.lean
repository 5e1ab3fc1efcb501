/-!
# Unicode white space

The characters that carry the Unicode `White_Space` property, and trimming by them.

A shell level, an `exit` argument and the blank-line test all read their text after this
trim, so a no-break space or an ideographic space around a number leaves it readable, while
a zero-width space (which is not white space) does not.  The table has twenty-five entries.
-/

namespace Conch.Text

/-- The twenty-five characters with the Unicode `White_Space` property. -/
def isWhiteSpace (c : Char) : Bool :=
  let n := c.toNat
  (0x09 ≤ n && n ≤ 0x0D) || n == 0x20 || n == 0x85 || n == 0xA0 || n == 0x1680 ||
    (0x2000 ≤ n && n ≤ 0x200A) || n == 0x2028 || n == 0x2029 || n == 0x202F ||
    n == 0x205F || n == 0x3000

/-- Drops white space from both ends of a list of characters. -/
def trimChars (cs : List Char) : List Char :=
  ((cs.dropWhile isWhiteSpace).reverse.dropWhile isWhiteSpace).reverse

/-- Drops white space from both ends of a text. -/
def trim (s : String) : String :=
  String.ofList (trimChars s.toList)

/-- A text is blank when trimming leaves nothing of it. -/
def isBlankText (s : String) : Bool :=
  s.toList.all isWhiteSpace

end Conch.Text
