import Strided.Text.Letter
import Strided.Text.Lowercase
import Strided.Text.Uppercase

/-!
# The case of words

Text in small letters, with a capital at the start, or with capitals at the start of every word.
One letter, the sigma, looks about it when it is made small: at the end of a word it has a form of
its own.
-/

namespace Strided.Text

/-- The characters that begin a word in another form than their capital one. -/
def titleSequences : List (Nat × List Nat) :=
  [(0xdf, [0x53, 0x73]), (0x1c4, [0x1c5]), (0x1c5, [0x1c5]), (0x1c6, [0x1c5]), (0x1c7, [0x1c8]),
   (0x1c8, [0x1c8]), (0x1c9, [0x1c8]), (0x1ca, [0x1cb]), (0x1cb, [0x1cb]), (0x1cc, [0x1cb]),
   (0x1f1, [0x1f2]), (0x1f2, [0x1f2]), (0x1f3, [0x1f2]), (0x587, [0x535, 0x582]),
   (0x10d0, [0x10d0]), (0x10d1, [0x10d1]), (0x10d2, [0x10d2]), (0x10d3, [0x10d3]),
   (0x10d4, [0x10d4]), (0x10d5, [0x10d5]), (0x10d6, [0x10d6]), (0x10d7, [0x10d7]),
   (0x10d8, [0x10d8]), (0x10d9, [0x10d9]), (0x10da, [0x10da]), (0x10db, [0x10db]),
   (0x10dc, [0x10dc]), (0x10dd, [0x10dd]), (0x10de, [0x10de]), (0x10df, [0x10df]),
   (0x10e0, [0x10e0]), (0x10e1, [0x10e1]), (0x10e2, [0x10e2]), (0x10e3, [0x10e3]),
   (0x10e4, [0x10e4]), (0x10e5, [0x10e5]), (0x10e6, [0x10e6]), (0x10e7, [0x10e7]),
   (0x10e8, [0x10e8]), (0x10e9, [0x10e9]), (0x10ea, [0x10ea]), (0x10eb, [0x10eb]),
   (0x10ec, [0x10ec]), (0x10ed, [0x10ed]), (0x10ee, [0x10ee]), (0x10ef, [0x10ef]),
   (0x10f0, [0x10f0]), (0x10f1, [0x10f1]), (0x10f2, [0x10f2]), (0x10f3, [0x10f3]),
   (0x10f4, [0x10f4]), (0x10f5, [0x10f5]), (0x10f6, [0x10f6]), (0x10f7, [0x10f7]),
   (0x10f8, [0x10f8]), (0x10f9, [0x10f9]), (0x10fa, [0x10fa]), (0x10fd, [0x10fd]),
   (0x10fe, [0x10fe]), (0x10ff, [0x10ff]), (0x1f80, [0x1f88]), (0x1f81, [0x1f89]),
   (0x1f82, [0x1f8a]), (0x1f83, [0x1f8b]), (0x1f84, [0x1f8c]), (0x1f85, [0x1f8d]),
   (0x1f86, [0x1f8e]), (0x1f87, [0x1f8f]), (0x1f88, [0x1f88]), (0x1f89, [0x1f89]),
   (0x1f8a, [0x1f8a]), (0x1f8b, [0x1f8b]), (0x1f8c, [0x1f8c]), (0x1f8d, [0x1f8d]),
   (0x1f8e, [0x1f8e]), (0x1f8f, [0x1f8f]), (0x1f90, [0x1f98]), (0x1f91, [0x1f99]),
   (0x1f92, [0x1f9a]), (0x1f93, [0x1f9b]), (0x1f94, [0x1f9c]), (0x1f95, [0x1f9d]),
   (0x1f96, [0x1f9e]), (0x1f97, [0x1f9f]), (0x1f98, [0x1f98]), (0x1f99, [0x1f99]),
   (0x1f9a, [0x1f9a]), (0x1f9b, [0x1f9b]), (0x1f9c, [0x1f9c]), (0x1f9d, [0x1f9d]),
   (0x1f9e, [0x1f9e]), (0x1f9f, [0x1f9f]), (0x1fa0, [0x1fa8]), (0x1fa1, [0x1fa9]),
   (0x1fa2, [0x1faa]), (0x1fa3, [0x1fab]), (0x1fa4, [0x1fac]), (0x1fa5, [0x1fad]),
   (0x1fa6, [0x1fae]), (0x1fa7, [0x1faf]), (0x1fa8, [0x1fa8]), (0x1fa9, [0x1fa9]),
   (0x1faa, [0x1faa]), (0x1fab, [0x1fab]), (0x1fac, [0x1fac]), (0x1fad, [0x1fad]),
   (0x1fae, [0x1fae]), (0x1faf, [0x1faf]), (0x1fb2, [0x1fba, 0x345]), (0x1fb3, [0x1fbc]),
   (0x1fb4, [0x386, 0x345]), (0x1fb7, [0x391, 0x342, 0x345]), (0x1fbc, [0x1fbc]),
   (0x1fc2, [0x1fca, 0x345]), (0x1fc3, [0x1fcc]), (0x1fc4, [0x389, 0x345]),
   (0x1fc7, [0x397, 0x342, 0x345]), (0x1fcc, [0x1fcc]), (0x1ff2, [0x1ffa, 0x345]),
   (0x1ff3, [0x1ffc]), (0x1ff4, [0x38f, 0x345]), (0x1ff7, [0x3a9, 0x342, 0x345]),
   (0x1ffc, [0x1ffc]), (0xfb00, [0x46, 0x66]), (0xfb01, [0x46, 0x69]), (0xfb02, [0x46, 0x6c]),
   (0xfb03, [0x46, 0x66, 0x69]), (0xfb04, [0x46, 0x66, 0x6c]), (0xfb05, [0x53, 0x74]),
   (0xfb06, [0x53, 0x74]), (0xfb13, [0x544, 0x576]), (0xfb14, [0x544, 0x565]),
   (0xfb15, [0x544, 0x56b]), (0xfb16, [0x54e, 0x576]), (0xfb17, [0x544, 0x56d])]

/-- The form of one character at the start of a word. -/
def initial (c : Char) : List Char :=
  match titleSequences.lookup c.toNat with
  | some letters => letters.map Char.ofNat
  | none => capital c

/-- The first character that is not passed over has a case. -/
def meetsCased (s : List Char) : Bool := (s.dropWhile isPassedOver).head?.any isCased

/-- The small form of a character between others; those before it are listed backwards. -/
def smallBetween (before : List Char) (c : Char) (rest : List Char) : List Char :=
  if c = 'Σ' then [if meetsCased before && !meetsCased rest then 'ς' else 'σ'] else small c

/-- Goes through a text with the characters before each one listed backwards. -/
def mapBetween (f : (before : List Char) → Char → (rest : List Char) → List Char) :
    (before : List Char) → List Char → List Char
  | _, [] => []
  | before, c :: rest => f before c rest ++ mapBetween f (c :: before) rest

def lower (s : List Char) : List Char := mapBetween smallBetween [] s

/-- Text with its first character as at the start of a word, and the rest small. -/
def capitalize (s : List Char) : List Char :=
  mapBetween (fun before c rest => if before = [] then initial c else smallBetween before c rest)
    [] s

def title (s : List Char) : List Char :=
  mapBetween (fun before c rest =>
    if before.head?.any isCased then smallBetween before c rest else initial c) [] s

/-- Capitals made small and small letters made capital. -/
def swapCase (s : List Char) : List Char :=
  mapBetween (fun before c rest =>
    if isCapital c then smallBetween before c rest else if isSmall c then capital c else [c]) [] s

/-! ### Looking at the case -/

/-- The text has letters with a case, and all of them are capital. -/
def allCapital (s : List Char) : Bool :=
  s.any isCapital && s.all fun c => !isSmall c && !isTitleLetter c

/-- The text has letters with a case, and all of them are small. -/
def allSmall (s : List Char) : Bool :=
  s.any isSmall && s.all fun c => !isCapital c && !isTitleLetter c

/-- Every word begins with a capital and goes on small; `inWord` says whether a word is open. -/
def titledFrom : (inWord : Bool) → List Char → Bool
  | _, [] => true
  | inWord, c :: rest =>
    if isCapital c || isTitleLetter c then !inWord && titledFrom true rest
    else if isSmall c then inWord && titledFrom true rest
    else titledFrom false rest

/-- The text has letters with a case, and every word begins with a capital and goes on small. -/
def isTitled (s : List Char) : Bool := s.any isCased && titledFrom false s

end Strided.Text
