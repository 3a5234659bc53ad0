import Strided.Fault.Kind
import Strided.Log
import Strided.Text.IntegerLiteral
import Strided.Text.Quoted
import Strided.Text.Utf8

/-!
# Faults

A `Fault` is the cause for which an operation has no result.  Its `kind` says how callers may handle
it and its `message` what they are told.  A broken contract is a `Violation`; it is logged when it
is found.
-/

namespace Strided

/-- A contract that a collaborator, or the library itself, has broken. -/
inductive Violation where
  | negativeLength (length : Int)
  | zeroStep
  | outOfBounds (linearIndex : Int)
  | emptyStack (description : String)
  | calledAgain
  | notCalled
  /-- A contract of the caller's own. -/
  | stated (message : String)
  deriving DecidableEq, Repr

namespace Violation

def message : Violation → String
  | negativeLength n => s!"expected non-negative slice length, got {n}"
  | zeroStep => "slice step must be nonzero"
  | outOfBounds i => s!"linear index {i} out of bounds, the slice is ill-formed"
  | emptyStack description => s!"pop from empty {description} defaults"
  | calledAgain => "SinglePartStringAccumulator called back multiple times"
  | notCalled => "SinglePartStringAccumulator not called back"
  | stated message => message

/-- The violation can be put into words: no integer in it has too many digits. -/
def isWritable : Violation → Bool
  | negativeLength n => Text.isWritable n
  | outOfBounds i => Text.isWritable i
  | _ => true

def record (v : Violation) : Log.Record :=
  ⟨.errors, .error, "contract violation: " ++ v.message⟩

end Violation

/-- The plain sequences, as far as they differ in how they refuse an index. -/
inductive SequenceKind where
  | list
  | tuple
  | text
  | bytes
  deriving DecidableEq, Repr

/-- Why an operation has no result. -/
inductive Fault where
  -- subscripts
  | indexOutOfRange
  | notASubscript (typeName : String)
  | fieldNotInteger
  | zeroStep
  | violation (v : Violation)
  -- elements of a store
  | beyondSequence (kind : SequenceKind)
  | beyondMemory
  | beyondAxis (index size : Int)
  | indexTooWide (typeName : String)
  | notAnArrayIndex
  | tooManyIndices (dimensions given : Nat)
  | maskTooLong (length axis : Nat)
  | missingKey (shown : String)
  | noLength (typeName : String)
  | notSubscriptable (typeName : String)
  | wrongSubscript (kind : SequenceKind) (typeName : String)
  | plainFieldNotInteger
  | plainZeroStep
  | noNumberSubscripts
  | lengthTooWide
  -- integers as text
  | tooManyDigits
  | tooManyDigitsRead (count : Nat)
  -- what cannot be compared
  | emptyTruth
  | severalTruths
  -- views as sequences
  | notFound
  | unordered (left right : String)
  | unhashable (typeName : String)
  | unsupportedSum (left right : String)
  | onlyConcatenates (left right : String)
  | cannotAppend (typeName : String)
  | notText (position : Nat) (typeName : String)
  | noAttribute (owner name : String)
  | foreignView
  -- arrays
  | wrongDimensions (count : Nat)
  | unevenShape (shape : List Nat)
  | tooDeep
  | wrongExtents (size : Nat) (shape : List Int)
  | outOfTypeRange (value : Int) (typeName : String)
  | nanToInteger
  | infinityToInteger
  | tooLargeForFloat
  | tooLargeForInteger
  | notADecimal (shown : String)
  | notConvertible (typeName : String)
  | notANumber (typeName : String)
  | notANumeral (shown : String)
  | notASingleElement
  | byteNotAscii (byte : UInt8) (position : Nat)
  | characterNotAscii (c : Char) (first last : Nat)
  -- native memory
  | notAnInteger (typeName : String)
  | indexNotInteger (typeName : String)
  | notReal (typeName : String)
  | notOneByte
  | notOneCharacter
  | notCharacterText (typeName : String)
  | countRequired
  | negativeCount (count : Int)
  -- defaults
  | noCurrent (description : String)
  | wrongType (description typeName : String)
  | wrongArgument (function parameter description typeName : String)
  | unknownParameters (function : String) (names : List String)
  | missingArgument (name : String)
  | tooManyPositional
  | multipleValues (name : String)
  | receiverByKeyword
  | unexpectedKeyword (name : String)
  | positionalOnly (name : String)
  | notIterable (typeName : String)
  | notCallable (typeName : String)
  | missingReferent (className : String)
  | uninitialised (name : String)
  | cannotAssign (name : String)
  | cannotDelete (name : String)
  -- methods of values
  | argumentsMissing (text : String)
  | popFromEmpty
  | noEntries
  | tooBigForByte
  | negativeByte
  | nanRatio
  | infiniteRatio
  -- collectors
  | needsEncoding
  | negativeSize
  | sizeTooWide (typeName : String)
  | sizeTooLarge
  | outOfMemory
  | notAByte
  | notBytes (typeName : String)
  | malformedText (m : Text.Utf8.Malformed)
  | diskFull
  | textExpected (typeName : String)
  | bytesExpected (typeName : String)
  | notImplemented
  -- settings and files
  | unknownLevel (name : String)
  | tooManyColons (text : String)
  | fieldsNotIntegers (text : String)
  | emptySubscript
  | noSuchFile (name : String)
  | isDirectory (name : String)
  | notDirectory (name : String)
  | nameTooLong (name : String)
  | zeroInName
  | emptyFile
  | endOfStream
  | badArchive
  | notGzip
  | badBzip2
  | badLzma
  | badHeader
  | badField (text : String)
  | unevenRows
  | unknownElementType (name : String)
  /-- A fault of the caller's own. -/
  | raised (kind : FaultKind) (text : String)
  deriving DecidableEq, Repr

namespace Fault

def kind : Fault → FaultKind
  | indexOutOfRange => .sliceIndex
  | notASubscript _ | fieldNotInteger | zeroStep => .subscriptType
  | violation _ => .contractViolation
  | beyondSequence _ | beyondMemory | beyondAxis .. | indexTooWide _ | notAnArrayIndex
  | tooManyIndices .. | maskTooLong .. | noNumberSubscripts | popFromEmpty => .index
  | missingKey _ | noEntries => .key
  | plainZeroStep | tooManyDigits | tooManyDigitsRead _ | emptyTruth | severalTruths => .value
  | plainFieldNotInteger | wrongSubscript .. | argumentsMissing _ => .type
  | noLength _ | notSubscriptable _ | unordered .. | unhashable _ | unsupportedSum ..
  | onlyConcatenates .. | cannotAppend _ | notText .. => .type
  | lengthTooWide => .overflow
  | notFound | foreignView | wrongDimensions _ | unevenShape _ | tooDeep | wrongExtents ..
  | nanToInteger | notASingleElement | nanRatio => .value
  | byteNotAscii .. => .unicodeDecode
  | characterNotAscii .. => .unicodeEncode
  | noAttribute .. | uninitialised _ => .missingAttribute
  | outOfTypeRange .. | infinityToInteger | tooLargeForFloat | tooLargeForInteger
  | infiniteRatio | tooBigForByte | negativeByte => .overflow
  | notANumber _ | notConvertible _ => .type
  | notANumeral _ | notADecimal _ => .value
  | notAnInteger _ | indexNotInteger _ | notReal _ | notOneByte | notOneCharacter
  | notCharacterText _ | countRequired => .type
  | negativeCount _ => .value
  | noCurrent _ => .resolution
  | wrongType .. | wrongArgument .. => .defaultingType
  | unknownParameters .. | missingArgument _ | tooManyPositional | multipleValues _
  | receiverByKeyword | unexpectedKeyword _ | positionalOnly _ | notIterable _ | notCallable _
  | missingReferent _ => .type
  | cannotAssign _ | cannotDelete _ => .frozenInstance
  | needsEncoding | notBytes _ | textExpected _ | bytesExpected _ => .type
  | negativeSize | notAByte => .value
  | sizeTooWide _ | sizeTooLarge => .overflow
  | outOfMemory => .memory
  | malformedText _ => .unicodeDecode
  | diskFull => .os
  | notImplemented => .notImplemented
  | unknownLevel _ => .value
  | tooManyColons _ | fieldsNotIntegers _ | emptySubscript => .invalidSubscript
  | noSuchFile _ => .fileNotFound
  | isDirectory _ => .directory
  | notDirectory _ => .noDirectory
  | nameTooLong _ | badBzip2 => .os
  | zeroInName => .value
  | emptyFile | endOfStream => .endOfFile
  | badArchive => .archive
  | notGzip => .gzipFile
  | badLzma => .lzma
  | badHeader | badField _ | unevenRows => .value
  | unknownElementType _ => .type
  | raised kind _ => kind

/-- How malformed UTF-8 is described: by its first octet, or by the range of the octets that belong
together. -/
def malformedMessage (m : Text.Utf8.Malformed) : String :=
  if m.length = 1 then
    let octet := String.ofList (Text.hexDigits 2 m.first.toNat)
    s!"'utf-8' codec can't decode byte 0x{octet} in position {m.position}: {m.defect.reason}"
  else
    let last := m.position + m.length - 1
    s!"'utf-8' codec can't decode bytes in position {m.position}-{last}: {m.defect.reason}"

/-- How characters that are not ASCII are described: by the first one, or by their range. -/
def asciiMessage (c : Char) (first last : Nat) : String :=
  if first = last then
    s!"'ascii' codec can't encode character '{String.ofList (Text.escapeByNumber c.toNat)}' in "
      ++ s!"position {first}: ordinal not in range(128)"
  else
    s!"'ascii' codec can't encode characters in position {first}-{last}: ordinal not in range(128)"

def shapeText : List Int → String
  | [n] => s!"({n},)"
  | shape => "(" ++ ", ".intercalate (shape.map toString) ++ ")"

def message : Fault → String
  | indexOutOfRange => "index out of range"
  | notASubscript t => s!"expected integer or slice, got {t}"
  | fieldNotInteger => "slice indices must be integers or None"
  | zeroStep => "slice step cannot be zero"
  | violation v => v.message
  | beyondSequence .list => "list index out of range"
  | beyondSequence .tuple => "tuple index out of range"
  | beyondSequence .text => "string index out of range"
  | beyondSequence .bytes => "index out of range"
  | beyondMemory => "invalid index"
  | beyondAxis i n => s!"index {i} is out of bounds for axis 0 with size {n}"
  | indexTooWide t => s!"cannot fit '{t}' into an index-sized integer"
  | notAnArrayIndex =>
    "only integers, slices (`:`), ellipsis (`...`), numpy.newaxis (`None`) and integer or "
      ++ "boolean arrays are valid indices"
  | tooManyIndices n k => s!"too many indices for array: array is {n}-dimensional, but {k} were indexed"
  | maskTooLong length axis =>
    s!"boolean index did not match indexed array along axis 0; size of axis is {axis} but size of "
      ++ s!"corresponding boolean axis is {length}"
  | missingKey shown => shown
  | noLength t => s!"object of type '{t}' has no len()"
  | notSubscriptable t => s!"'{t}' object is not subscriptable"
  | wrongSubscript .list t => s!"list indices must be integers or slices, not {t}"
  | wrongSubscript .tuple t => s!"tuple indices must be integers or slices, not {t}"
  | wrongSubscript .text t => s!"string indices must be integers, not '{t}'"
  | wrongSubscript .bytes t => s!"byte indices must be integers or slices, not {t}"
  | plainFieldNotInteger => "slice indices must be integers or None or have an __index__ method"
  | plainZeroStep => "slice step cannot be zero"
  | noNumberSubscripts => "invalid index to scalar variable."
  | tooManyDigits =>
    "Exceeds the limit (4300 digits) for integer string conversion; use "
      ++ "sys.set_int_max_str_digits() to increase the limit"
  | tooManyDigitsRead n =>
    s!"Exceeds the limit (4300 digits) for integer string conversion: value has {n} digits; use "
      ++ "sys.set_int_max_str_digits() to increase the limit"
  | emptyTruth =>
    "The truth value of an empty array is ambiguous. Use `array.size > 0` to check that an array "
      ++ "is not empty."
  | severalTruths =>
    "The truth value of an array with more than one element is ambiguous. Use a.any() or a.all()"
  | lengthTooWide => "cannot fit 'int' into an index-sized integer"
  | notFound => ""
  | unordered l r => s!"'<' not supported between instances of '{l}' and '{r}'"
  | unhashable t => s!"unhashable type: '{t}'"
  | unsupportedSum l r => s!"unsupported operand type(s) for +: '{l}' and '{r}'"
  | onlyConcatenates l r => s!"can only concatenate {l} (not \"{r}\") to {l}"
  | cannotAppend t => s!"can't concat {t} to bytes"
  | notText n t => s!"sequence item {n}: expected str instance, {t} found"
  | noAttribute owner name => s!"'{owner}' object has no attribute '{name}'"
  | foreignView => "view does not belong to this backing"
  | wrongDimensions n => s!"expected a one-dimensional array, got {n} dims"
  | unevenShape shape =>
    "setting an array element with a sequence. The requested array has an inhomogeneous shape "
      ++ s!"after {shape.length} dimensions. The detected shape was "
      ++ shapeText (shape.map Int.ofNat) ++ " + inhomogeneous part."
  | tooDeep =>
    "setting an array element with a sequence. The requested array would exceed the maximum "
      ++ "number of dimension of 64."
  | wrongExtents n shape => s!"cannot reshape array of size {n} into shape {shapeText shape}"
  | outOfTypeRange n t => s!"Python integer {n} out of bounds for {t}"
  | nanToInteger => "cannot convert float NaN to integer"
  | infinityToInteger => "cannot convert float infinity to integer"
  | tooLargeForFloat => "int too large to convert to float"
  | tooLargeForInteger => "Python int too large to convert to C long"
  | notADecimal shown => "invalid literal for int() with base 10: " ++ shown
  | notConvertible t =>
    s!"int() argument must be a string, a bytes-like object or a real number, not '{t}'"
  | notANumber t => s!"float() argument must be a string or a real number, not '{t}'"
  | notANumeral shown => "could not convert string to float: " ++ shown
  | byteNotAscii b position =>
    s!"'ascii' codec can't decode byte 0x{String.ofList (Text.hexDigits 2 b.toNat)} in position "
      ++ s!"{position}: ordinal not in range(128)"
  | characterNotAscii c first last => asciiMessage c first last
  | notASingleElement => "can only convert an array of size 1 to a Python scalar"
  | notAnInteger t => s!"'{t}' object cannot be interpreted as an integer"
  | indexNotInteger t => s!"__index__ returned non-int (type {t})"
  | notReal t => s!"must be real number, not {t}"
  | notOneByte => "one character bytes, bytearray or integer expected"
  | notOneCharacter => "one character unicode string expected"
  | notCharacterText t => s!"unicode string expected instead of {t} instance"
  | countRequired => "a count is required unless data is a ctypes array"
  | negativeCount n => s!"expected a non-negative count, got {n}"
  | noCurrent d => s!"no current {d} has been set"
  | wrongType d t => s!"expected {d}, got {t}"
  | wrongArgument f p d t => s!"{f}(): argument '{p}' must be {d} or None, got {t}"
  | unknownParameters f names => s!"{f}() has no parameters named " ++ ", ".intercalate names
  | missingArgument p => s!"missing a required argument: {Text.quote p}"
  | tooManyPositional => "too many positional arguments"
  | multipleValues p => s!"multiple values for argument {Text.quote p}"
  | receiverByKeyword => "DefaultingFunction.__call__() got multiple values for argument 'self'"
  | unexpectedKeyword k => s!"got an unexpected keyword argument {Text.quote k}"
  | positionalOnly p => s!"{Text.quote p} parameter is positional only, but was passed as a keyword"
  | notIterable t => s!"'{t}' object is not iterable"
  | notCallable t => s!"'{t}' object is not callable"
  | missingReferent c => s!"{c}.__init__() missing 1 required positional argument: 'referent'"
  | uninitialised name => name
  | cannotAssign name => s!"cannot assign to field {Text.quote name}"
  | cannotDelete name => s!"cannot delete field {Text.quote name}"
  | argumentsMissing text => text
  | popFromEmpty => "pop from empty list"
  | noEntries => Text.quote "popitem(): dictionary is empty"
  | tooBigForByte => "int too big to convert"
  | negativeByte => "can't convert negative int to unsigned"
  | nanRatio => "cannot convert NaN to integer ratio"
  | infiniteRatio => "cannot convert Infinity to integer ratio"
  | needsEncoding => "string argument without an encoding"
  | negativeSize => "negative count"
  | sizeTooWide t => s!"cannot fit '{t}' into an index-sized integer"
  | sizeTooLarge => "byte string is too large"
  | outOfMemory => ""
  | notAByte => "bytes must be in range(0, 256)"
  | notBytes t => s!"cannot convert '{t}' object to bytes"
  | malformedText m => malformedMessage m
  | diskFull => "disk full"
  | textExpected t => s!"string argument expected, got '{t}'"
  | bytesExpected t => s!"a bytes-like object is required, not '{t}'"
  | notImplemented => ""
  | unknownLevel name => s!"unknown log level: {name}"
  | tooManyColons s => s!"too many colons in subscript: {s}"
  | fieldsNotIntegers s => s!"subscript fields must be integers: {s}"
  | emptySubscript => "empty subscript"
  | noSuchFile name => s!"No such file or directory: {Text.quote name}"
  | isDirectory name => s!"Is a directory: {Text.quote name}"
  | notDirectory name => s!"Not a directory: {Text.quote name}"
  | nameTooLong name => s!"File name too long: {Text.quote name}"
  | zeroInName => "embedded null byte"
  | endOfStream => "Compressed file ended before the end-of-stream marker was reached"
  | notGzip => "Not a gzipped file"
  | badBzip2 => "Invalid data stream"
  | badLzma => "Input format not supported by decoder"
  | emptyFile => "No data left in file"
  | badArchive => "File is not a zip file"
  | badHeader => "the file is not an array file"
  | badField s => s!"could not convert string {Text.quote s} to a number"
  | unevenRows => "the number of columns changed"
  | unknownElementType name => s!"data type {Text.quote name} not understood"
  | raised .key text => Text.quote text
  | raised _ text => text

/-- How a fault is shown as a value. -/
def display (f : Fault) : String := s!"{f.kind.name}({Text.quote f.message})"

end Fault

end Strided
