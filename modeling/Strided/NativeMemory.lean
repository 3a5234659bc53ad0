import Strided.TypedArray

/-!
# Native memory

A `Region` is a run of cells of one native type, reached as an array, which knows how many cells it
has, or through a pointer, which does not.  A value is stored in the width of its cell: integers
lose what does not fit.
-/

namespace Strided

/-- The types of native cells. -/
inductive CellType where
  | int (bytes : Nat) (signed : Bool)
  | bool
  | char
  | wideChar
  | float (size : FloatSize)
  deriving DecidableEq, Repr

namespace CellType

def name : CellType → String
  | int 1 true => "c_byte"
  | int 1 false => "c_ubyte"
  | int 2 true => "c_short"
  | int 2 false => "c_ushort"
  | int 4 true => "c_int"
  | int 4 false => "c_uint"
  | int _ true => "c_long"
  | int _ false => "c_ulong"
  | bool => "c_bool"
  | char => "c_char"
  | wideChar => "c_wchar"
  | float .double => "c_double"
  | float _ => "c_float"

def byName : List (String × CellType) :=
  [("c_byte", int 1 true), ("c_int8", int 1 true), ("c_ubyte", int 1 false), ("c_uint8", int 1 false),
    ("c_short", int 2 true), ("c_int16", int 2 true), ("c_ushort", int 2 false),
    ("c_uint16", int 2 false), ("c_int", int 4 true), ("c_int32", int 4 true), ("c_uint", int 4 false),
    ("c_uint32", int 4 false), ("c_long", int 8 true), ("c_int64", int 8 true),
    ("c_longlong", int 8 true), ("c_ssize_t", int 8 true), ("c_ulong", int 8 false),
    ("c_uint64", int 8 false), ("c_ulonglong", int 8 false), ("c_size_t", int 8 false), ("c_bool", bool),
    ("c_char", char), ("c_wchar", wideChar), ("c_float", float .single), ("c_double", float .double)]

def ofName? (s : String) : Option CellType := byName.lookup s

def toReal (v : Value) : Except Fault Number.Double :=
  match v.quantity? with
  | some (.float d) => .ok d
  | some (.int n) => Value.realOfInteger n
  | none =>
    match v.toIndex with
    | .ok n => Value.realOfInteger n
    | .error (.notAnInteger t) => .error (.notReal t)
    | .error e => .error e

/-- What a cell holds once a value has been stored in it. -/
def store : CellType → Value → Except Fault Value
  | int bytes signed, v => v.toIndex.map fun n => .int (ElementType.wrap bytes signed n)
  | bool, v => .ok (.bool v.truth)
  | char, .bool b => .ok (.bytes [if b then 1 else 0])
  | char, .int n =>
    if 0 ≤ n ∧ n < 256 then .ok (.bytes [UInt8.ofNat n.toNat]) else .error .notOneByte
  | char, v =>
    match v.bytes? with
    | some [b] => .ok (.bytes [b])
    | _ => .error .notOneByte
  | wideChar, v =>
    match v.text? with
    | some s => if s.length = 1 then .ok (.text s) else .error .notOneCharacter
    | none => .error (.notCharacterText v.familyTypeName)
  | float size, v => (toReal v).map fun d => .float (d.roundTo size.format) none

end CellType

/-- How a region is reached. -/
inductive Access where
  | array
  | pointer
  deriving DecidableEq, Repr

/-- A run of native cells, of which `count` are declared. -/
structure Region where
  type : CellType
  cells : List Value
  access : Access
  count : Nat

namespace Region

/-- The region over cells filled with the given values.  Without a count an array declares all its
cells. -/
def ofValues (type : CellType) (items : List Value) (access : Access) (count : Option Int) :
    Except Fault Region := do
  let cells ← items.mapM type.store
  match count, access with
  | none, .pointer => .error .countRequired
  | none, .array => .ok ⟨type, cells, .array, cells.length⟩
  | some n, _ =>
    if 0 ≤ n then .ok ⟨type, cells, access, n.toNat⟩
    else if Text.isWritable n then .error (.negativeCount n)
    else .error .tooManyDigits

/-- The region over cells filled with the elements of a value. -/
def ofValue (type : CellType) (v : Value) (access : Access) (count : Option Int) :
    Except Fault Region :=
  match v.items? with
  | some items => ofValues type items access count
  | none => .error (.noLength v.familyTypeName)

def typeName (r : Region) : String :=
  match r.access with
  | .array => s!"{r.type.name}_Array_{r.cells.length}"
  | .pointer => s!"LP_{r.type.name}"

/-- The cell at an index.  An array takes a negative index from its end. -/
def read (r : Region) (i : Int) : Except Fault Value :=
  if !Number.Word.fits i then .error (.indexTooWide "int")
  else
    let j := if i < 0 ∧ r.access = .array then i + r.cells.length else i
    if j < 0 then .error .beyondMemory
    else
      match r.cells[j.toNat]? with
      | some v => .ok v
      | none => .error .beyondMemory

end Region

end Strided
