import Strided.NativeMemory
import Strided.Traced
import Strided.Value.Item

/-!
# Backings

A `Backing` is a store that views look into: it knows how many elements it has, and it reads the
element at an index.  `ofSequence` keeps the elements in a list, tuple, text or bytes, `ofArray` in
a typed array and `ofRegion` in native memory.  All of them take a negative index from the end, as
far as they know where that is; views never rely on it.
-/

namespace Strided

/-- The kinds of view.  A numeric view can be turned into a typed array, a labelled one joins its
texts. -/
inductive ViewKind where
  | plain
  | numeric
  | labelled
  deriving DecidableEq, Repr

namespace ViewKind

def name : ViewKind → String
  | plain => "SliceView"
  | numeric => "NumpyView"
  | labelled => "LabeledView"

def ofName? (s : String) : Option ViewKind := [plain, numeric, labelled].find? (·.name == s)

end ViewKind

/-- A store of elements. -/
structure Backing (α : Type) where
  /-- Which store it is. -/
  id : Nat
  /-- The name of its class. -/
  className : String
  /-- The kind of the views derived from it. -/
  viewKind : ViewKind
  /-- How it is shown in a report. -/
  describe : Except Fault String
  /-- How many elements it has. -/
  count : Except Fault Nat
  /-- The element at an index. -/
  read : Int → Except Fault α
  /-- The typed array that it is kept in, if it is kept in one. -/
  array : Option TypedArray

namespace Backing

variable {α : Type}

def probe (b : Backing α) (i : Int) : Probe α := ⟨[.read b.id i], b.read i⟩

/-- How many elements there are. -/
def rawCount (b : Backing α) : Probe Nat := .ofExcept b.count

/-- The backing holds the elements of a list, in order. -/
structure Holds (b : Backing α) (xs : List α) : Prop where
  count : b.count = .ok xs.length
  read : ∀ (i : Nat) (x : α), xs[i]? = some x → b.read i = .ok x

/-! ### Sequences -/

/-- How many elements a value has. -/
def sizeOf (v : Value) : Except Fault Nat :=
  match v.items? with
  | some items => .ok items.length
  | none => .error (.noLength v.familyTypeName)

def ofSequence (id : Nat) (className : String) (viewKind : ViewKind) (v : Value) :
    Backing Value :=
  let items := v.items?
  { id := id
    className := className
    viewKind := viewKind
    describe := (sizeOf v).map fun n => s!"SequenceBacking({v.typeName}, count={n})"
    count := sizeOf v
    read := fun i => v.subscriptWith items (.int i)
    array := none }

/-- A sequence is read by its elements. -/
theorem read_ofSequence (id : Nat) (className : String) (viewKind : ViewKind) {v : Value}
    {kind : SequenceKind} {items : List Value} (hkind : v.sequenceKind? = some kind)
    (hitems : v.items? = some items) (i : Int) :
    (ofSequence id className viewKind v).read i = Value.elementOf kind items "int" i := by
  simp only [ofSequence, hitems, Value.subscriptWith]
  split
  · simp [Value.sequenceKind?, Value.text?, Value.bytes?] at hkind
  · rw [hkind]
    rfl

/-- A sequence holds its elements, as long as their positions fit a word. -/
theorem holds_ofSequence (id : Nat) (className : String) (viewKind : ViewKind) {v : Value}
    {kind : SequenceKind} {items : List Value} (hkind : v.sequenceKind? = some kind)
    (hitems : v.items? = some items) (hlen : (items.length : Int) ≤ Number.Word.greatest) :
    (ofSequence id className viewKind v).Holds items where
  count := by simp only [ofSequence, sizeOf, hitems]
  read := by
    intro i x hx
    have hi : i < items.length := (List.getElem?_eq_some_iff.1 hx).1
    have hfits : Number.Word.fits i = true :=
      Number.Word.fits_of_index hlen (by omega) (Int.ofNat_lt.2 hi)
    rw [read_ofSequence id className viewKind hkind hitems, Value.elementOf, hfits]
    simp only [Bool.not_true, Bool.false_eq_true, if_false, show ¬ (i : Int) < 0 by omega,
      Int.toNat_natCast, hx]

/-- How a backing that is kept in a typed array is shown. -/
def describeArray (a : TypedArray) : String :=
  s!"NumpyBacking(dtype={a.type.name}, count={a.size})"

/-- A backing whose elements are those of a typed array. -/
def ofArray (id : Nat) (className : String) (viewKind : ViewKind) (a : TypedArray) :
    Backing Value where
  id := id
  className := className
  viewKind := viewKind
  describe := .ok (describeArray a)
  count := .ok a.size
  read i := a.read i >>= TypedArray.plainValue
  array := some a

/-- A backing whose elements are cells of native memory. -/
def ofRegion (id : Nat) (className : String) (viewKind : ViewKind) (r : Region) :
    Backing Value where
  id := id
  className := className
  viewKind := viewKind
  describe :=
    if Text.isWritable r.count then .ok s!"CTypesBacking({r.typeName}, count={r.count})"
    else .error .tooManyDigits
  count := .ok r.count
  read := r.read
  array := none

end Backing

end Strided
