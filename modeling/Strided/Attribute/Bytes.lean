import Strided.Attribute.Text

/-!
# Attributes of bytes

Bytes have most of the methods of texts.  Only the letters, digits and blanks of ASCII count as
such.
-/

namespace Strided.Attribute

def isByteBlank (c : Char) : Bool := c == ' ' || (9 ≤ c.toNat && c.toNat ≤ 13)

/-- A letter of ASCII at the start of a word is a capital, behind another letter it is small. -/
def titledBytes : (inWord : Bool) → List Char → List Char
  | _, [] => []
  | inWord, c :: rest =>
    (if inWord then c.toLower else c.toUpper) :: titledBytes c.isAlpha rest

/-- Every word begins with a capital and goes on small; `inWord` says whether a word is open. -/
def bytesTitled : (inWord : Bool) → List Char → Bool
  | _, [] => true
  | inWord, c :: rest =>
    if c.isUpper then !inWord && bytesTitled true rest
    else if c.isLower then inWord && bytesTitled true rest
    else bytesTitled false rest

/-- The bytes of characters that stand for one each. -/
def octets (s : List Char) : Value := .bytes (s.map fun c => UInt8.ofNat c.toNat)

/-- A method of bytes that makes other bytes of them, as characters. -/
def ofBytesChanging (s : List Char) : String → Option (List Char)
  | "lower" => some (s.map Char.toLower)
  | "upper" => some (s.map Char.toUpper)
  | "title" => some (titledBytes false s)
  | "capitalize" =>
    match s with
    | [] => some []
    | c :: rest => some (c.toUpper :: rest.map Char.toLower)
  | "swapcase" => some (s.map fun c => if c.isUpper then c.toLower else c.toUpper)
  | "strip" => some (Text.trim isByteBlank s)
  | "lstrip" => some (s.dropWhile isByteBlank)
  | "rstrip" => some (s.reverse.dropWhile isByteBlank).reverse
  | "expandtabs" => some (Text.expandTabs s)
  | "__bytes__" => some s
  | _ => none

/-- A method of bytes that looks at them, as characters. -/
def ofBytesLooking (s : List Char) : String → Option Bool
  | "isalpha" => some (every Char.isAlpha s)
  | "isalnum" => some (every Char.isAlphanum s)
  | "isdigit" => some (every Char.isDigit s)
  | "isspace" => some (every isByteBlank s)
  | "isascii" => some (s.all (·.toNat < 0x80))
  | "islower" => some (s.any Char.isLower && !s.any Char.isUpper)
  | "isupper" => some (s.any Char.isUpper && !s.any Char.isLower)
  | "istitle" => some (s.any Char.isAlpha && bytesTitled false s)
  | _ => none

def bytesMethods : List String :=
  ["fromhex", "join", "partition", "removeprefix", "removesuffix", "rpartition", "zfill"]

def ofBytes? (b : List UInt8) (name : String) : Option Attribute :=
  let s := b.map fun n => Char.ofNat n.toNat
  match ofBytesChanging s name, ofBytesLooking s name with
  | some t, _ => some (answers (octets t))
  | none, some f => some (flag f)
  | none, none =>
    match name with
    | "__len__" => some (int b.length)
    | "hex" => some (text (b.flatMap fun n => Text.hexDigits 2 n.toNat))
    | "decode" => some (method (((Text.Utf8.decode b).map Value.text).mapError Fault.malformedText))
    | "split" | "rsplit" => some (answers (.list ((Text.words isByteBlank s).map octets) none))
    | "splitlines" =>
      some (answers (.list ((Text.linesBetween Text.isLineEnd s).map octets) none))
    | "replace" => some (expectsAtLeast name 2)
    | "maketrans" => some (expects name 2)
    | "translate" =>
      some (fails (.argumentsMissing "translate() takes at least 1 positional argument (0 given)"))
    | name =>
      if bytesMethods.contains name then some (oneArgument "bytes" name)
      else if searchMethods.contains name then some (oneOrMore name)
      else if fillMethods.contains name then some (expectsAtLeast name 1)
      else none

end Strided.Attribute
