import Strided.Attribute.Basic
import Strided.Text.Blank
import Strided.Text.Casing
import Strided.Text.Digit
import Strided.Text.Identifier
import Strided.Text.Printable
import Strided.Text.Quoted
import Strided.Text.Utf8
import Strided.Text.Words

/-!
# Attributes of texts

Texts have methods that change the case of their letters, take them apart, and look at their
characters.
-/

namespace Strided.Attribute

def texts (parts : List (List Char)) : Attribute :=
  answers (.list (parts.map fun s => .text (String.ofList s)) none)

/-- The text has characters, and all of them satisfy `p`. -/
def every (p : Char → Bool) (s : List Char) : Bool := !s.isEmpty && s.all p

/-- What a field without an argument for it comes to: fields are numbered or named. -/
def missingField (field : List Char) : Fault :=
  let name := field.takeWhile fun c => !(".[:!".toList.contains c)
  if name.all Char.isDigit then
    let number := if name = [] then "0" else String.ofList name
    .raised .index s!"Replacement index {number} out of range for positional args tuple"
  else .raised .key (String.ofList name)

/-- Fills the fields of a text, for none of which there is an argument.  A brace that is meant as
such is doubled. -/
def filled : List Char → Except Fault (List Char)
  | [] => .ok []
  | '\x7b' :: '\x7b' :: rest => ('\x7b' :: ·) <$> filled rest
  | '\x7d' :: '\x7d' :: rest => ('\x7d' :: ·) <$> filled rest
  | ['\x7b'] => .error (.raised .value "Single '\x7b' encountered in format string")
  | '\x7b' :: rest =>
    if rest.contains '\x7d' then .error (missingField (rest.takeWhile (· != '\x7d')))
    else .error (.raised .value "expected '\x7d' before end of string")
  | '\x7d' :: _ => .error (.raised .value "Single '\x7d' encountered in format string")
  | c :: rest => (c :: ·) <$> filled rest

/-- A method of a text that makes another text of it. -/
def ofTextChanging (s : List Char) : String → Option (List Char)
  | "lower" => some (Text.lower s)
  | "upper" => some (s.flatMap Text.capital)
  | "title" => some (Text.title s)
  | "capitalize" => some (Text.capitalize s)
  | "swapcase" => some (Text.swapCase s)
  | "casefold" => some (s.flatMap Text.folded)
  | "strip" => some (Text.strip s)
  | "lstrip" => some (s.dropWhile Text.isBlank)
  | "rstrip" => some (s.reverse.dropWhile Text.isBlank).reverse
  | "expandtabs" => some (Text.expandTabs s)
  | _ => none

def ofTextLooking (s : List Char) : String → Option Bool
  | "isalpha" => some (every Text.isLetter s)
  | "isalnum" => some (every (fun c => Text.isLetter c || Text.standsForNumber c) s)
  | "isdecimal" => some (every Text.isDigit s)
  | "isdigit" => some (every Text.standsForDigit s)
  | "isnumeric" => some (every Text.standsForNumber s)
  | "isspace" => some (every Text.isBlank s)
  | "isascii" => some (s.all (·.toNat < 0x80))
  | "isprintable" => some (s.all Text.isPrintable)
  | "islower" => some (Text.allSmall s)
  | "isupper" => some (Text.allCapital s)
  | "istitle" => some (Text.isTitled s)
  | "isidentifier" => some (Text.isIdentifier s)
  | _ => none

def textMethods : List String :=
  ["format_map", "join", "partition", "removeprefix", "removesuffix", "rpartition", "translate",
    "zfill"]

/-- The methods of texts and bytes that look for something. -/
def searchMethods : List String :=
  ["count", "find", "index", "rfind", "rindex", "startswith", "endswith"]

/-- The methods of texts and bytes that fill up a line. -/
def fillMethods : List String := ["center", "ljust", "rjust"]

def ofText? (s : List Char) (name : String) : Option Attribute :=
  match ofTextChanging s name, ofTextLooking s name with
  | some t, _ => some (text t)
  | none, some b => some (flag b)
  | none, none =>
    match name with
    | "__len__" => some (int s.length)
    | "split" | "rsplit" => some (texts (Text.words Text.isBlank s))
    | "splitlines" => some (texts (Text.linesBetween Text.isWideLineEnd s))
    | "encode" => some (answers (.bytes (Text.Utf8.encode (String.ofList s))))
    | "format" => some (method ((filled s).map fun t => .text (String.ofList t)))
    | "replace" => some (expectsAtLeast name 2)
    | "maketrans" => some (expectsAtLeast name 1)
    | name =>
      if textMethods.contains name then some (oneArgument "str" name)
      else if searchMethods.contains name then some (oneOrMore name)
      else if fillMethods.contains name then some (expectsAtLeast name 1)
      else none

end Strided.Attribute
