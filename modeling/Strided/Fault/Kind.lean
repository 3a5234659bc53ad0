/-!
# Kinds of fault

The kinds form a hierarchy: a fault is of its own kind and of every kind above it.  The library has
six kinds of its own under `library`, and most of them stand under a general kind too, so that an
index out of range, say, can be handled as any failed look-up.
-/

namespace Strided

/-- A kind of fault. -/
inductive FaultKind where
  | library
  | sliceIndex
  | subscriptType
  | defaultingType
  | resolution
  | contractViolation
  | invalidSubscript
  | general
  | arithmetic
  | overflow
  | zeroDivision
  | assertion
  | missingAttribute
  | frozenInstance
  | memory
  | lookup
  | index
  | key
  | os
  | fileNotFound
  | directory
  | noDirectory
  | endOfFile
  | archive
  | gzipFile
  | lzma
  | runtime
  | notImplemented
  | recursion
  | stopIteration
  | type
  | value
  | unicode
  | unicodeDecode
  | unicodeEncode
  /-- A kind that this library has no use for. -/
  | other (name : String)
  deriving DecidableEq, Repr

namespace FaultKind

def name : FaultKind → String
  | library => "StridebinError"
  | sliceIndex => "SliceIndexError"
  | subscriptType => "SubscriptTypeError"
  | defaultingType => "DefaultingTypeError"
  | resolution => "ResolutionError"
  | contractViolation => "ContractViolation"
  | invalidSubscript => "InvalidSubscript"
  | general => "Exception"
  | arithmetic => "ArithmeticError"
  | overflow => "OverflowError"
  | zeroDivision => "ZeroDivisionError"
  | assertion => "AssertionError"
  | missingAttribute => "AttributeError"
  | frozenInstance => "FrozenInstanceError"
  | memory => "MemoryError"
  | lookup => "LookupError"
  | index => "IndexError"
  | key => "KeyError"
  | os => "OSError"
  | fileNotFound => "FileNotFoundError"
  | directory => "IsADirectoryError"
  | noDirectory => "NotADirectoryError"
  | endOfFile => "EOFError"
  | archive => "BadZipFile"
  | gzipFile => "BadGzipFile"
  | lzma => "LZMAError"
  | runtime => "RuntimeError"
  | notImplemented => "NotImplementedError"
  | recursion => "RecursionError"
  | stopIteration => "StopIteration"
  | type => "TypeError"
  | value => "ValueError"
  | unicode => "UnicodeError"
  | unicodeDecode => "UnicodeDecodeError"
  | unicodeEncode => "UnicodeEncodeError"
  | other name => name

def named : List FaultKind :=
  [library, sliceIndex, subscriptType, defaultingType, resolution, contractViolation, invalidSubscript,
    general, arithmetic, overflow, zeroDivision, assertion, missingAttribute, frozenInstance, memory, lookup,
    index, key, os, fileNotFound, directory, noDirectory, endOfFile, archive, gzipFile, lzma, runtime,
    notImplemented, recursion, stopIteration, type, value, unicode, unicodeDecode, unicodeEncode]

/-- Further kinds under `os`. -/
def underOs : List String :=
  ["BlockingIOError", "BrokenPipeError", "ChildProcessError", "ConnectionAbortedError",
    "ConnectionError", "ConnectionRefusedError", "ConnectionResetError", "FileExistsError",
    "InterruptedError", "PermissionError", "ProcessLookupError", "TimeoutError"]

/-- Kinds that are not under `general`: they end what is running. -/
def aboveGeneral : List String :=
  ["BaseException", "GeneratorExit", "KeyboardInterrupt", "SystemExit"]

def ofName (s : String) : FaultKind := (named.find? (·.name == s)).getD (.other s)

def ancestors : FaultKind → List FaultKind
  | library => [library, general]
  | sliceIndex => [sliceIndex, library, index, lookup, general]
  | subscriptType => [subscriptType, library, type, value, general]
  | defaultingType => [defaultingType, library, type, general]
  | resolution => [resolution, library, lookup, general]
  | contractViolation => [contractViolation, library, assertion, general]
  | general => [general]
  | overflow => [overflow, arithmetic, general]
  | zeroDivision => [zeroDivision, arithmetic, general]
  | frozenInstance => [frozenInstance, missingAttribute, general]
  | index => [index, lookup, general]
  | key => [key, lookup, general]
  | fileNotFound => [fileNotFound, os, general]
  | directory => [directory, os, general]
  | noDirectory => [noDirectory, os, general]
  | gzipFile => [gzipFile, os, general]
  | notImplemented => [notImplemented, runtime, general]
  | recursion => [recursion, runtime, general]
  | unicode => [unicode, value, general]
  | unicodeDecode => [unicodeDecode, unicode, value, general]
  | unicodeEncode => [unicodeEncode, unicode, value, general]
  | other name =>
    if underOs.contains name then [other name, os, general]
    else if aboveGeneral.contains name then [other name]
    else [other name, general]
  | kind => [kind, general]

/-- A fault of the first kind is also one of the second. -/
def isA (kind above : FaultKind) : Bool := kind.ancestors.contains above

/-- The kinds that callers are told apart by: those of the library and the general ones above them.
-/
def reported : List FaultKind :=
  [assertion, contractViolation, defaultingType, general, index, key, lookup, os, resolution, runtime,
    sliceIndex, library, subscriptType, type, value]

/-- The names of the reported kinds that a kind belongs to, in alphabetical order. -/
def memberships (kind : FaultKind) : List String :=
  (reported.filter kind.isA).map name

end FaultKind

end Strided
