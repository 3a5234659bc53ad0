import Strided.TypedArray

/-!
# The format of array files

An array file begins with a signature, two bytes for the version and the length of the header.  The
header is a line of text: the short name of the storage type, whether the first dimension runs
fastest, and the extents.  The bytes of the elements follow.  `read?` gives the elements row by row,
whichever dimension runs fastest in the file.
-/

namespace Strided.ArrayFormat

def signature : List UInt8 := 0x93 :: [0x4e, 0x55, 0x4d, 0x50, 0x59]

/-- What a header says. -/
structure Header where
  type : ElementType
  /-- The first dimension runs fastest. -/
  columnwise : Bool
  shape : List Nat
  deriving DecidableEq, Repr

/-- The text behind the first place where `mark` is found. -/
def behind? (mark : List Char) : List Char → Option (List Char)
  | [] => if mark = [] then some [] else none
  | c :: rest =>
    if mark.isPrefixOf (c :: rest) then some ((c :: rest).drop mark.length) else behind? mark rest

/-- The text behind the name of an entry of a header. -/
def entry? (name : String) (header : List Char) : Option (List Char) :=
  (behind? ('\'' :: name.toList ++ ['\'', ':']) header).map (·.dropWhile (· == ' '))

/-- The storage type of a header: its short name in quotes. -/
def type? (header : List Char) : Option ElementType :=
  match entry? "descr" header with
  | some ('\'' :: rest) => ElementType.ofName? (String.ofList (rest.takeWhile (· != '\'')))
  | _ => none

/-- The extents of a header: numbers in brackets, each with a comma behind it, except that the last
of several needs none. -/
def shape? (header : List Char) : Option (List Nat) :=
  match entry? "shape" header with
  | some ('(' :: rest) =>
    let inside := (rest.takeWhile (· != ')')).filter (· != ' ')
    let numbers := (inside.splitBy fun a b => a != ',' && b != ',').filter (· != [','])
    numbers.mapM fun digits =>
      if digits.all Char.isDigit then some (Number.Numeral.ofDigits digits) else none
  | _ => none

def header? (header : List Char) : Option Header := do
  let type ← type? header
  let order ← entry? "fortran_order" header
  let shape ← shape? header
  some ⟨type, "True".toList.isPrefixOf order, shape⟩

/-- Where the elements stand if the first dimension runs fastest, row by row. -/
def columnwiseOffsets : (shape : List Nat) → List Nat
  | [] => [0]
  | extent :: rest =>
    let inner := columnwiseOffsets rest
    (List.range extent).flatMap fun i => inner.map fun offset => i + extent * offset

/-- The first `count` groups of `size` bytes. -/
def groups (size : Nat) : (count : Nat) → List UInt8 → List (List UInt8)
  | 0, _ => []
  | count + 1, bytes => bytes.take size :: groups size count (bytes.drop size)

def elements? (h : Header) (bytes : List UInt8) : Option (List (Element Value)) := do
  let count := h.shape.foldr (· * ·) 1
  if bytes.length < count * h.type.size then none
  else
    let stored ← (groups h.type.size count bytes).mapM (Element.decode h.type)
    if h.columnwise then (columnwiseOffsets h.shape).mapM (stored[·]?) else some stored

def split? (bytes : List UInt8) : Option (List Char × List UInt8) :=
  if signature.isPrefixOf bytes then
    match bytes.drop signature.length with
    | version :: _ :: rest =>
      let width := if version = 1 then 2 else 4
      let length := ofLittleBytes (rest.take width)
      let header := (rest.drop width).take length
      some (header.map fun b => Char.ofNat b.toNat, rest.drop (width + length))
    | _ => none
  else none

def read? (bytes : List UInt8) : Option TypedArray := do
  let (text, rest) ← split? bytes
  let header ← header? text
  let elements ← elements? header rest
  some ⟨header.type, elements⟩

end Strided.ArrayFormat
