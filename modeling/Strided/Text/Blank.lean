/-!
# Blank characters

Two notions of blank are in use.  `isBlank` is Unicode's white space together with the four
information separators; texts are stripped of it.  `isNumeralBlank` is what may stand around a
number: the same, without the information separators.
-/

namespace Strided.Text

/-- White space of any script, and the information separators U+001C to U+001F. -/
def isBlank (c : Char) : Bool :=
  let n := c.toNat
  (0x09 ≤ n && n ≤ 0x0d) || (0x1c ≤ n && n ≤ 0x20) || n == 0x85 || n == 0xa0 || n == 0x1680
    || (0x2000 ≤ n && n ≤ 0x200a) || n == 0x2028 || n == 0x2029 || n == 0x202f || n == 0x205f
    || n == 0x3000

/-- An information separator: blank when a text is stripped, foreign next to a numeral. -/
def isInformationSeparator (c : Char) : Bool := 0x1c ≤ c.toNat && c.toNat ≤ 0x1f

/-- Blank next to a numeral. -/
def isNumeralBlank (c : Char) : Bool := isBlank c && !isInformationSeparator c

/-- Drops what satisfies `p` from both ends. -/
def trim (p : Char → Bool) (s : List Char) : List Char :=
  ((s.dropWhile p).reverse.dropWhile p).reverse

/-- Drops blanks from both ends. -/
def strip (s : List Char) : List Char := trim isBlank s

end Strided.Text
