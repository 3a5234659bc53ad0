import Strided.Fault

/-!
# Compressed files

The ending of a name may say that a file is compressed.  A text that is stored under such a name is
not: `refusal?` says how it is turned down.  Only no text at all passes as an empty file, and only
under one of the endings.
-/

namespace Strided

/-- The ways of compression. -/
inductive Compression where
  | gzip
  | bzip2
  | lzma
  deriving DecidableEq, Repr

namespace Compression

/-- The way of compression that an ending stands for. -/
def byEnding : List (String × Compression) :=
  [(".gz", gzip), (".bz2", bzip2), (".xz", lzma), (".lzma", lzma)]

/-- The ending of the last name of a path: its last point and what follows.  Points at the front of
the name do not count. -/
def ending (path : String) : String :=
  let name := (path.toList.reverse.takeWhile (· != '/')).reverse.dropWhile (· == '.')
  if name.contains '.' then
    String.ofList ('.' :: (name.reverse.takeWhile (· != '.')).reverse)
  else ""

def ofPath? (path : String) : Option Compression := byEnding.lookup (ending path)

/-- What a stream of the second kind begins with; its fourth byte is a digit other than zero. -/
def bzip2Start : List UInt8 := Text.Utf8.encode "BZh91AY&SY"

/-- The bytes are the beginning of a stream of the second kind, and no more. -/
def beginsBzip2 (b : List UInt8) : Bool :=
  let digit := b[3]?.getD 0x39
  b.length < bzip2Start.length && 0x31 ≤ digit && digit ≤ 0x39
    && b == (bzip2Start.set 3 digit).take b.length

/-- The bytes are the beginning of a stream of the third kind: the first of them holds three small
numbers. -/
def beginsLzma (b : List UInt8) : Bool :=
  match b with
  | [] => true
  | n :: _ => n < 225 && n.toNat % 9 + n.toNat % 45 / 9 ≤ 4 && b.length < 5

/-- Why the bytes of a text are no compressed file. -/
def refusal? (c : Compression) (b : List UInt8) : Option Fault :=
  match c with
  | gzip => if b = [] then none else some .notGzip
  | bzip2 => if beginsBzip2 b then some .endOfStream else some .badBzip2
  | lzma => if beginsLzma b then some .endOfStream else some .badLzma

end Compression

end Strided
