import Strided.Proofs.Element
import Strided.Proofs.View.ArrayWindow

/-!
# Integers kept in four ways

A list of integers of 64 bits can be kept as a list, as a tuple, in a typed array or in native
memory.  Each of them takes an index outside in its own way, but inside they hold the same
(`Keeping.exists_store`).
-/

namespace Strided

namespace Value

/-! ### A list of integers as a nest -/

theorem extentsOfAll_ints (xs : List Int) :
    extentsOfAll (xs.map .int) = xs.map fun _ => ([], true) := by
  induction xs with
  | nil => rfl
  | cons n rest ih => rw [List.map_cons, extentsOfAll, ih, List.map_cons, extents] <;> nofun

theorem leavesOfAll_ints (xs : List Int) : leavesOfAll (xs.map .int) = xs.map .int := by
  induction xs with
  | nil => rfl
  | cons n rest ih => rw [List.map_cons, leavesOfAll, ih, leaves, List.singleton_append] <;> nofun

theorem evenExtents_ints (xs : List Int) (mark : Mark) :
    evenExtents (.list (xs.map .int) mark) = .ok [xs.length] := by
  have h : extents (.list (xs.map .int) mark) = ([xs.length], true) := by
    rw [extents, extentsOfAll_ints]
    cases xs with
    | nil => rfl
    | cons n rest => simp [joinExtents]
  rw [evenExtents, h]
  rfl

end Value

theorem TypedArray.ofValue_ints {bytes : Nat} {signed : Bool} {xs : List Int}
    (hword : ∀ n ∈ xs, Value.fitsWord bytes signed n = true)
    (hxs : ∀ n ∈ xs, ElementType.holds bytes signed n = true) (order : ByteOrder) (mark : Mark) :
    ofValue (some (.int bytes signed order)) (.list (xs.map .int) mark) =
      .ok ⟨.int bytes signed order, xs.map .int⟩ := by
  have hstore : (xs.map Value.int).mapM (Value.store (.int bytes signed order)) =
      .ok (xs.map .int) := by
    rw [mapM_eq_ok_iff, List.forall₂_map_left_iff, List.forall₂_map_right_iff, List.forall₂_same]
    intro n hn
    change Value.storeWhole bytes signed n = _
    rw [Value.storeWhole, hword n hn, hxs n hn]
    rfl
  have hitems : ofItems (some (.int bytes signed order)) (xs.map .int) =
      .ok ⟨.int bytes signed order, xs.map .int⟩ := by
    change (xs.map Value.int).mapM (Value.store (.int bytes signed order)) >>= _ = _
    rw [hstore]
    rfl
  rw [ofValue, if_neg nofun, ofNest, Value.evenExtents_ints, Value.leaves, Value.leavesOfAll_ints,
    hitems]
  rfl

theorem Region.ofValue_ints {bytes : Nat} {signed : Bool} {xs : List Int} (hbytes : 0 < bytes)
    (hxs : ∀ n ∈ xs, ElementType.holds bytes signed n = true) (mark : Mark) :
    ofValue (.int bytes signed) (.list (xs.map .int) mark) .array none =
      .ok ⟨.int bytes signed, xs.map .int, .array, xs.length⟩ := by
  have hstore : (xs.map Value.int).mapM (CellType.store (.int bytes signed)) =
      .ok (xs.map Value.int) := by
    rw [mapM_eq_ok_iff, List.forall₂_map_left_iff, List.forall₂_map_right_iff, List.forall₂_same]
    intro n hn
    change Except.ok (Value.int (ElementType.wrap bytes signed n)) = _
    rw [ElementType.wrap_of_holds hbytes (hxs n hn)]
  have hcount : xs.length = (xs.map Value.int).length := (List.length_map Value.int).symm
  change ofValues (.int bytes signed) (xs.map .int) .array none = _
  rw [ofValues, hstore, hcount]
  rfl

/-! ### Stores -/

inductive Keeping where
  | list
  | tuple
  | array
  | cells
  deriving DecidableEq, Repr

/-- The store that keeps a list of integers of 64 bits. -/
def Keeping.store (k : Keeping) (id : Nat) (kind : ViewKind) (xs : List Int) :
    Except Fault (Backing Value) :=
  let items := xs.map Value.int
  match k with
  | list => .ok (.ofSequence id "SequenceBacking" kind (.list items none))
  | tuple => .ok (.ofSequence id "SequenceBacking" kind (.tuple items))
  | array =>
    (TypedArray.ofValue (some (.int 8 true .little)) (.list items none)).map
      (.ofArray id "NumpyBacking" kind)
  | cells =>
    (Region.ofValue (.int 8 true) (.list items none) .array none).map
      (.ofRegion id "CTypesBacking" kind)

namespace Backing

theorem holds_ofArray (id : Nat) (className : String) (kind : ViewKind) {a : TypedArray}
    {xs : List Value} (h : List.Forall₂ (fun e x => TypedArray.plainValue e = .ok x) a.elements xs)
    (hlen : (xs.length : Int) ≤ Number.Word.greatest) :
    (ofArray id className kind a).Holds xs where
  count := congrArg Except.ok h.length_eq
  read := by
    intro i x hx
    obtain ⟨hi, rfl⟩ := List.getElem?_eq_some_iff.1 hx
    have hi' : i < a.elements.length := by rw [h.length_eq]; exact hi
    rw [read_ofArray id className kind (Int.natCast_nonneg i) (List.getElem?_eq_getElem hi')
      (by rw [TypedArray.size, h.length_eq]; exact hlen)]
    exact h.get hi' hi

/-- An array that is not one of objects holds its elements as values. -/
theorem holds_toValues (id : Nat) (className : String) (kind : ViewKind) {a : TypedArray}
    (ha : a.WellFormed) (htype : a.type ≠ .object) (hsize : (a.size : Int) ≤ Number.Word.greatest) :
    (ofArray id className kind a).Holds a.toValues := by
  refine holds_ofArray id className kind ?_ (by rwa [TypedArray.toValues, List.length_map])
  rw [TypedArray.toValues, List.forall₂_map_right_iff, List.forall₂_same]
  exact ha.plainValue htype

theorem holds_ofRegion (id : Nat) (className : String) (kind : ViewKind) {r : Region}
    (hcount : r.count = r.cells.length) (hlen : (r.cells.length : Int) ≤ Number.Word.greatest) :
    (ofRegion id className kind r).Holds r.cells where
  count := congrArg Except.ok hcount
  read := by
    intro i x hx
    have hi : i < r.cells.length := (List.getElem?_eq_some_iff.1 hx).1
    have hfits : Number.Word.fits i = true :=
      Number.Word.fits_of_index hlen (by omega) (Int.ofNat_lt.2 hi)
    change r.read i = .ok x
    rw [Region.read, hfits]
    simp only [Bool.not_true, Bool.false_eq_true, if_false, show ¬ (i : Int) < 0 by omega,
      false_and, Int.toNat_natCast, hx]

end Backing

/-- **However a list of integers of 64 bits is kept, there is a store, and it holds the integers.**
-/
theorem Keeping.exists_store (k : Keeping) (id : Nat) (kind : ViewKind) {xs : List Int}
    (hxs : ∀ n ∈ xs, ElementType.holds 8 true n = true)
    (hlen : (xs.length : Int) ≤ Number.Word.greatest) :
    ∃ b, k.store id kind xs = .ok b ∧ b.id = id ∧ b.viewKind = kind ∧ b.Holds (xs.map .int) := by
  have hlen' : ((xs.map Value.int).length : Int) ≤ Number.Word.greatest := by
    rw [List.length_map]
    exact hlen
  cases k with
  | list => exact ⟨_, rfl, rfl, rfl, Backing.holds_ofSequence id _ kind rfl rfl hlen'⟩
  | tuple => exact ⟨_, rfl, rfl, rfl, Backing.holds_ofSequence id _ kind rfl rfl hlen'⟩
  | array =>
    have hword : ∀ n ∈ xs, Value.fitsWord 8 true n = true := fun n hn => by
      rw [Value.fitsWord, hxs n hn, Bool.true_or]
    have harray := TypedArray.ofValue_ints hword hxs .little none
    refine ⟨_, by rw [store, harray]; rfl, rfl, rfl, Backing.holds_ofArray id _ kind ?_ hlen'⟩
    rw [List.forall₂_map_left_iff, List.forall₂_map_right_iff, List.forall₂_same]
    exact fun n _ => rfl
  | cells =>
    have hregion := Region.ofValue_ints (by decide) hxs none
    refine ⟨_, by rw [store, hregion]; rfl, rfl, rfl, ?_⟩
    exact Backing.holds_ofRegion id _ kind (List.length_map Value.int).symm hlen'

end Strided
