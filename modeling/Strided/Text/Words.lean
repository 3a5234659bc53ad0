/-!
# Words and lines

`words` are the longest runs of elements that are no blanks, `splitAt` gives the texts between the
occurrences of a character, and `linesBetween` what stands between the ends of lines.  A line feed
behind a carriage return belongs to the same end.
-/

namespace Strided.Text

variable {α : Type}

/-- The longest runs of elements that are no blanks. -/
def words (blank : α → Bool) : List α → List (List α)
  | [] => []
  | [c] => if blank c then [] else [[c]]
  | c :: d :: rest =>
    if blank c then words blank (d :: rest)
    else if blank d then [c] :: words blank (d :: rest)
    else
      match words blank (d :: rest) with
      | word :: others => (c :: word) :: others
      | [] => [[c]]

/-- The texts between the occurrences of a character. -/
def splitAt (mark : Char) : List Char → List (List Char)
  | [] => [[]]
  | c :: rest =>
    if c = mark then [] :: splitAt mark rest
    else
      match splitAt mark rest with
      | field :: fields => (c :: field) :: fields
      | [] => [[c]]

theorem splitAt_ne_nil (mark : Char) (s : List Char) : splitAt mark s ≠ [] := by
  cases s with
  | nil => simp [splitAt]
  | cons c rest =>
    unfold splitAt
    split
    · simp
    · split <;> simp

/-- The lines of a text, without what ends them.  Nothing behind the last end is no line. -/
def linesBetween (ends : Char → Bool) : List Char → List (List Char)
  | [] => []
  | '\r' :: '\n' :: rest =>
    if ends '\r' then [] :: linesBetween ends rest
    else
      match linesBetween ends ('\n' :: rest) with
      | line :: others => ('\r' :: line) :: others
      | [] => [['\r']]
  | c :: rest =>
    if ends c then [] :: linesBetween ends rest
    else
      match linesBetween ends rest with
      | line :: others => (c :: line) :: others
      | [] => [[c]]

def isLineEnd (c : Char) : Bool := c == '\n' || c == '\r'

/-- What ends a line in any script: tabs to the next line or page, the separators of files, groups
and records, and the line and paragraph signs, besides line feed and carriage return. -/
def isWideLineEnd (c : Char) : Bool :=
  let n := c.toNat
  (0x0a ≤ n && n ≤ 0x0d) || (0x1c ≤ n && n ≤ 0x1e) || n == 0x85 || n == 0x2028 || n == 0x2029

def tabWidth : Nat := 8

/-- Tabs as blanks, from a column on. -/
def expandTabsFrom : (column : Nat) → List Char → List Char
  | _, [] => []
  | column, c :: rest =>
    if c = '\t' then
      let gap := tabWidth - column % tabWidth
      List.replicate gap ' ' ++ expandTabsFrom (column + gap) rest
    else c :: expandTabsFrom (if isLineEnd c then 0 else column + 1) rest

def expandTabs (s : List Char) : List Char := expandTabsFrom 0 s

example : words (· == ' ') " a  bc".toList = [['a'], ['b', 'c']] := by decide

end Strided.Text
