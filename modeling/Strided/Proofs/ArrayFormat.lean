import Strided.Proofs.Element

/-!
# Elements as bytes

The bytes of a truth value or of an integer give the element back, under its type
(`Element.isStored_encode`): the digits in base 256 are those of the residue of the integer, in
either order, and of the integers with this residue the type has only one.  All elements of a type
take as many bytes, so the bytes of several can be told apart again and give back the array
(`TypedArray.ofBytes?_flatten`).
-/

namespace Strided

namespace ElementType

/-- A type of truth values or of integers. -/
def isIntegral : ElementType → Bool
  | bool | int .. => true
  | _ => false

theorem size_pos {type : ElementType} (hsized : type.isSized = true)
    (hintegral : type.isIntegral = true) : 0 < type.size := by
  cases type with
  | bool => decide
  | int => exact width_pos_of_isSized hsized
  | _ => cases hintegral

theorem pow_256 (width : Nat) : Nat.pow 256 width = Nat.pow 2 (8 * width) :=
  (Nat.pow_mul 2 8 width).symm

theorem wrap_emod (width : Nat) (signed : Bool) (n : Int) :
    wrap width signed (n % Nat.pow 256 width) = wrap width signed n := by
  simp only [wrap, pow_256, Int.emod_emod]

end ElementType

namespace Element

variable {ω : Type}

/-- Bytes that an element is stored as: as many as its type says, and they give it back. -/
structure IsStored (type : ElementType) (stored : List UInt8) (e : Element ω) : Prop where
  length_eq : stored.length = type.size
  decode_eq : decode type stored = some e

theorem length_arrange (order : ByteOrder) (bytes : List UInt8) :
    (order.arrange bytes).length = bytes.length := by
  cases order with
  | little => rfl
  | big => exact List.length_reverse

/-- **The bytes of an element give it back**, in any width and order and up to the limits of the
type. -/
theorem isStored_encode {type : ElementType} (hsized : type.isSized = true)
    (hintegral : type.isIntegral = true) {e : Element ω} (h : e.BelongsTo type) :
    IsStored type (encode type e) e := by
  cases type with
  | bool =>
    obtain ⟨b, rfl⟩ := h
    cases b <;> exact ⟨rfl, rfl⟩
  | int width signed order =>
    obtain ⟨n, rfl, hn⟩ := h
    refine ⟨by rw [encode, length_arrange, length_littleBytes, ElementType.size], ?_⟩
    have hpos : (0 : Int) < Nat.pow 256 width := Int.ofNat_lt.2 (Nat.pow_pos (by decide))
    have hresidue : ((n % Nat.pow 256 width).toNat % Nat.pow 256 width : Nat) =
        n % (Nat.pow 256 width : Nat) := by
      rw [Int.natCast_emod, Int.toNat_of_nonneg (Int.emod_nonneg n (Int.ne_of_gt hpos)),
        Int.emod_emod]
    rw [encode, decode, ByteOrder.arrange_arrange, ofLittleBytes_littleBytes, hresidue,
      ElementType.wrap_emod, ElementType.wrap_of_holds (ElementType.width_pos_of_isSized hsized) hn]
  | _ => cases hintegral

theorem forall_length_eq {type : ElementType} {chunks : List (List UInt8)}
    {elements : List (Element ω)} (h : List.Forall₂ (IsStored type) chunks elements) :
    ∀ chunk ∈ chunks, chunk.length = type.size := by
  intro chunk hchunk
  obtain ⟨e, -, he⟩ := exists_of_mem_left h hchunk
  exact he.length_eq

end Element

namespace ArrayFormat

theorem groups_flatten {size : Nat} {chunks : List (List UInt8)}
    (h : ∀ chunk ∈ chunks, chunk.length = size) :
    groups size chunks.length chunks.flatten = chunks := by
  induction chunks with
  | nil => rfl
  | cons chunk rest ih =>
    obtain ⟨rfl, hrest⟩ := List.forall_mem_cons.1 h
    rw [List.length_cons, groups, List.flatten_cons, List.take_left, List.drop_left, ih hrest]

theorem length_flatten_of_forall {size : Nat} {chunks : List (List UInt8)}
    (h : ∀ chunk ∈ chunks, chunk.length = size) :
    chunks.flatten.length = chunks.length * size := by
  induction chunks with
  | nil => exact (Nat.zero_mul size).symm
  | cons chunk rest ih =>
    obtain ⟨rfl, hrest⟩ := List.forall_mem_cons.1 h
    rw [List.flatten_cons, List.length_append, ih hrest, List.length_cons, Nat.succ_mul,
      Nat.add_comm]

theorem elements?_flatten {type : ElementType} {chunks : List (List UInt8)}
    {elements : List (Element Value)} (h : List.Forall₂ (Element.IsStored type) chunks elements) :
    elements? ⟨type, false, [chunks.length]⟩ chunks.flatten = some elements := by
  have hsize := Element.forall_length_eq h
  have hdecode : chunks.mapM (Element.decode type) = some elements :=
    mapM_eq_some_iff.2 (h.imp fun _ _ => Element.IsStored.decode_eq)
  have hcount : [chunks.length].foldr (· * ·) 1 = chunks.length := Nat.mul_one _
  have hroom : ¬chunks.flatten.length < chunks.length * type.size := by
    rw [length_flatten_of_forall hsize]
    exact Nat.lt_irrefl _
  unfold elements?
  dsimp only
  rw [hcount, if_neg hroom, groups_flatten hsize, hdecode]
  rfl

end ArrayFormat

namespace TypedArray

/-- The array of one dimension that bytes are, of as many elements of a type as they have room for.
-/
def ofBytes? (type : ElementType) (bytes : List UInt8) : Option TypedArray :=
  (ArrayFormat.elements? ⟨type, false, [bytes.length / type.size]⟩ bytes).map (⟨type, ·⟩)

/-- **The bytes of elements are an array of them.** -/
theorem ofBytes?_flatten {type : ElementType} (hpos : 0 < type.size) {chunks : List (List UInt8)}
    {elements : List (Element Value)} (h : List.Forall₂ (Element.IsStored type) chunks elements) :
    ofBytes? type chunks.flatten = some ⟨type, elements⟩ := by
  rw [ofBytes?, ArrayFormat.length_flatten_of_forall (Element.forall_length_eq h),
    Nat.mul_div_cancel _ hpos, ArrayFormat.elements?_flatten h]
  rfl

end TypedArray

end Strided
