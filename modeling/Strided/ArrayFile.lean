import Strided.ArrayFormat
import Strided.Compression
import Strided.Table

/-!
# Data files

A data file holds a table or, under a name that ends in `.npy`, an array with its storage type.
`load` reads either as a typed array of one dimension; a type that is asked for is used for the
elements of a table, and an array is converted to it.  Under the names of compressed files there is
nothing to be read.
-/

namespace Strided

/-- What a file holds. -/
inductive StoredFile where
  | text (s : String)
  | array (a : TypedArray)
  /-- Neither of the two: where it stops being a text. -/
  | other (m : Text.Utf8.Malformed)

namespace StoredFile

def ofBytes (bytes : List UInt8) : StoredFile :=
  match ArrayFormat.read? bytes, Text.Utf8.decode bytes with
  | some a, _ => array a
  | none, .ok s => text s
  | none, .error m => other m

def arrayEnding : String := ".npy"

/-- The type of the elements of a table if none is asked for. -/
def tableType : ElementType := .float .double .little

/-- Why a text is no array file. -/
def notAnArray (s : String) : Fault :=
  if s = "" then .emptyFile
  else if s.startsWith "PK\x03\x04" || s.startsWith "PK\x05\x06" then .badArchive
  else .badHeader

def typeNamed (name : String) : Except Fault ElementType :=
  match ElementType.ofName? name with
  | some t => .ok t
  | none => .error (.unknownElementType name)

/-- The array in an array file.  Objects are not read. -/
def asArray : StoredFile → Except Fault TypedArray
  | text s => .error (notAnArray s)
  | array a => if a.type = .object then .error .badHeader else .ok a
  | other _ => .error .badHeader

/-- The text in a text file.  An array file begins with a byte that begins no character. -/
def asText : StoredFile → Except Fault String
  | text s => .ok s
  | array _ => .error (.malformedText ⟨0x93, 0, 1, .invalidStart⟩)
  | other m => .error (.malformedText m)

def read (name : String) (typeName : Option String) (file : StoredFile) : Except Fault TypedArray :=
  if name.endsWith arrayEnding then do
    let a ← file.asArray
    match typeName with
    | none => .ok a
    | some t => do
      let type ← typeNamed t
      a.cast type
  else do
    let s ← file.asText
    let type ← match typeName with
      | none | some "" => .ok tableType
      | some t => typeNamed t
    match (Compression.ofPath? name).bind (·.refusal? (Text.Utf8.encode s)) with
    | some f => .error f
    | none => Table.parse type s

def load (files : String → Except Fault StoredFile) (name : String) (typeName : Option String) :
    Except Fault TypedArray := do
  let file ← files name
  file.read name typeName

end StoredFile

end Strided
