import Strided.ArrayFile
import Strided.Proofs.Outcome
import Strided.Proofs.Text.Utf8

/-!
# Elements and their types

`Element.BelongsTo` says that an element is of the sort that a storage type keeps, an integer within
the bounds of its type.  Whatever makes an element of a type makes one that belongs to it: reading
its bytes (`decode_belongsTo`), converting between types (`cast_belongsTo`), storing a value
(`store_belongsTo`) and reading a field of a table (`element_belongsTo`).  So every array that is
loaded from a file consists of elements of its type (`StoredFile.load_wellFormed`).
-/

namespace Strided

namespace ElementType

/-! ### Integer types -/

/-- The type has a width that a name can give it. -/
def isSized : ElementType → Bool
  | int width _ _ => [1, 2, 4, 8].contains width
  | _ => true

theorem width_pos_of_isSized {width : Nat} {signed : Bool} {order : ByteOrder}
    (h : (int width signed order).isSized = true) : 0 < width := by
  simp [isSized] at h
  omega

theorem pow_width {width : Nat} (h : 0 < width) :
    Nat.pow 2 (8 * width) = Nat.pow 2 (8 * width - 1) * 2 := by
  rw [show 8 * width = (8 * width - 1) + 1 by omega]
  rfl

theorem wrap_of_holds {width : Nat} {signed : Bool} {n : Int} (hwidth : 0 < width)
    (h : holds width signed n = true) : wrap width signed n = n := by
  simp only [holds, Bool.and_eq_true, decide_eq_true_eq] at h
  simp only [least, greatest, pow_width hwidth] at h
  simp only [wrap, pow_width hwidth]
  generalize Nat.pow 2 (8 * width - 1) = half at *
  cases signed with
  | false =>
    simp only [Bool.false_eq_true, if_false, false_and] at h ⊢
    exact Int.emod_eq_of_lt h.1 (by omega)
  | true =>
    simp only [if_true, true_and] at h ⊢
    by_cases hn : 0 ≤ n
    · rw [Int.emod_eq_of_lt hn (by omega), if_neg (by omega)]
    · rw [← Int.add_emod_right, Int.emod_eq_of_lt (by omega) (by omega), if_pos (by omega)]
      omega

theorem holds_wrap {width : Nat} (signed : Bool) (n : Int) (hwidth : 0 < width) :
    holds width signed (wrap width signed n) = true := by
  have hpos : 0 < Nat.pow 2 (8 * width - 1) := Nat.pow_pos (by decide)
  simp only [holds, Bool.and_eq_true, decide_eq_true_eq]
  simp only [least, greatest, wrap, pow_width hwidth]
  generalize Nat.pow 2 (8 * width - 1) = half at *
  have hlo := Int.emod_nonneg n (show ((half * 2 : Nat) : Int) ≠ 0 by omega)
  have hhi := Int.emod_lt_of_pos n (show (0 : Int) < (half * 2 : Nat) by omega)
  cases signed with
  | false =>
    simp only [Bool.false_eq_true, if_false, false_and]
    omega
  | true =>
    simp only [if_true, true_and]
    split <;> omega

/-- An integer type with a width takes integers of eight bytes at most. -/
theorem abs_lt_of_holds {width : Nat} {signed : Bool} {order : ByteOrder} {n : Int}
    (hsized : (int width signed order).isSized = true) (h : holds width signed n = true) :
    n.natAbs < Nat.pow 2 64 := by
  have hwidth : 8 * width ≤ 64 := by
    simp [isSized] at hsized
    omega
  have hpow : Nat.pow 2 (8 * width) ≤ Nat.pow 2 64 := Nat.pow_le_pow_right (by decide) hwidth
  simp only [holds, Bool.and_eq_true, decide_eq_true_eq] at h
  simp only [least, greatest, pow_width (width_pos_of_isSized hsized)] at h
  rw [pow_width (width_pos_of_isSized hsized)] at hpow
  have hpos : 0 < Nat.pow 2 (8 * width - 1) := Nat.pow_pos (by decide)
  generalize Nat.pow 2 (8 * width - 1) = half at *
  generalize Nat.pow 2 64 = most at *
  cases signed <;> simp only [Bool.false_eq_true, if_false, if_true] at h <;> omega

theorem isWritable_of_holds {width : Nat} {signed : Bool} {order : ByteOrder} {n : Int}
    (hsized : (int width signed order).isSized = true) (h : holds width signed n = true) :
    Text.isWritable n = true := by
  have hdigits : Nat.pow 2 64 ≤ Nat.pow 10 Text.maxDigits := by decide +kernel
  rw [Text.isWritable, decide_eq_true_eq]
  exact Nat.lt_of_lt_of_le (abs_lt_of_holds hsized h) hdigits

/-! ### Names of types -/

theorem isSized_of_ofLetter? {order : ByteOrder} {letter : Char} {t : ElementType}
    (h : ofLetter? order letter = some t) : t.isSized = true := by
  unfold ofLetter? at h
  split at h <;> cases h <;> rfl

theorem isSized_of_ofCode? {order : ByteOrder} {letter : Char} {n : Nat} {t : ElementType}
    (h : ofCode? order letter n = some t) : t.isSized = true := by
  unfold ofCode? at h
  split at h
  · cases h
    rfl
  · cases h
    rfl
  · split at h
    · next hn =>
      cases h
      simp only [isSized, List.contains_cons, hn, Bool.or_true] at hn ⊢
    · cases h
  · split at h
    · next hn =>
      cases h
      simp only [isSized, List.contains_cons, hn, Bool.or_true] at hn ⊢
    · cases h
  all_goals
    cases h
    try rfl

theorem isSized_of_ofName? {s : String} {t : ElementType} (h : ofName? s = some t) :
    t.isSized = true := by
  rcases Option.or_eq_some_iff.1 h with h | ⟨-, h⟩
  · unfold ofShort? at h
    simp only at h
    split at h
    · exact isSized_of_ofLetter? h
    · obtain ⟨n, -, h⟩ := Option.bind_eq_some_iff.1 h
      exact isSized_of_ofCode? h
    · cases h
  · have hall : ∀ p ∈ byName, p.2.isSized = true := by decide
    obtain ⟨front, back, hlist, -⟩ := List.lookup_eq_some_iff.1 h
    exact hall (s, t) (hlist ▸ List.mem_append_right front (List.mem_cons_self ..))

theorem ofName?_of_dash {s : String} {r : List Char} (h : s.toList = '-' :: r) :
    ofName? s = none := by
  refine Option.or_eq_none_iff.2 ⟨?_, ?_⟩
  · rw [h]
    cases r with
    | nil => rfl
    | cons c r =>
      change (width? (c :: r)).bind (ofCode? .little '-') = none
      rw [show ofCode? .little '-' = fun _ => none from rfl]
      exact Option.bind_fun_none _
  · have hall : ∀ p ∈ byName, p.1.toList.head? ≠ some '-' := by decide
    refine List.lookup_eq_none_iff.2 fun p hp => ?_
    rw [bne_iff_ne]
    rintro rfl
    exact hall p hp (by rw [h]; rfl)

end ElementType

namespace Element

variable {ω : Type}

/-- The element is of the sort that the type keeps. -/
def BelongsTo (e : Element ω) : ElementType → Prop
  | .bool => ∃ b, e = bool b
  | .int width signed _ => ∃ n, e = int n ∧ ElementType.holds width signed n = true
  | .float .. => ∃ d, e = float d
  | .text .. => ∃ s, e = text s
  | .bytes _ => ∃ b, e = bytes b
  | .object => True

theorem wrap_belongsTo {width : Nat} {signed : Bool} {order : ByteOrder}
    (h : (ElementType.int width signed order).isSized = true) (n : Int) :
    (int (ElementType.wrap width signed n) : Element ω).BelongsTo (.int width signed order) :=
  ⟨_, rfl, ElementType.holds_wrap signed n (ElementType.width_pos_of_isSized h)⟩

theorem decode_belongsTo {type : ElementType} (htype : type.isSized = true) {stored : List UInt8}
    {e : Element ω} (h : decode type stored = some e) : e.BelongsTo type := by
  cases type with
  | int =>
    cases h
    exact wrap_belongsTo htype _
  | object => trivial
  | _ =>
    cases h
    exact ⟨_, rfl⟩

theorem cast_belongsTo {source target : ElementType} (htarget : target.isSized = true)
    {e f : Element ω} (h : e.cast source target = some f) : f.BelongsTo target := by
  cases target with
  | int =>
    cases e <;> cases h <;> exact wrap_belongsTo htarget _
  | object => trivial
  | _ =>
    cases e <;> cases h <;> exact ⟨_, rfl⟩

theorem widen_belongsTo {type : ElementType} {e : Element Empty} (h : e.BelongsTo type) :
    (e.widen : Element ω).BelongsTo type := by
  cases type with
  | int =>
    obtain ⟨n, rfl, hn⟩ := h
    exact ⟨n, rfl, hn⟩
  | object => trivial
  | _ =>
    obtain ⟨x, rfl⟩ := h
    exact ⟨x, rfl⟩

end Element

namespace Value

theorem fitsWord_of_holds {width : Nat} {signed : Bool} {order : ByteOrder} {n : Int}
    (hsized : (ElementType.int width signed order).isSized = true)
    (h : ElementType.holds width signed n = true) : fitsWord width signed n = true := by
  have hwidth : width = 1 ∨ width = 2 ∨ width = 4 ∨ width = 8 := by
    simpa [ElementType.isSized] using hsized
  rcases hwidth with rfl | rfl | rfl | rfl <;> cases signed <;>
    simp [fitsWord, ElementType.holds, ElementType.least, ElementType.greatest] at h ⊢ <;> omega

theorem plain_int {n : Int} (h : Text.isWritable n = true) : (int n).plain = .ok (toString n) := by
  change displayInteger n = _
  rw [displayInteger, if_pos h]

theorem storeWhole_belongsTo {width : Nat} {signed : Bool} (order : ByteOrder) {n : Int}
    {e : Element Value} (h : storeWhole width signed n = .ok e) :
    e.BelongsTo (.int width signed order) := by
  unfold storeWhole at h
  split at h
  · cases h
  · split at h
    · next hn =>
      cases h
      exact ⟨n, rfl, hn⟩
    · cases h

theorem storePlain_belongsTo {type : ElementType} {v : Value} {e : Element Value}
    (h : storePlain type v = .ok e) : e.BelongsTo type := by
  cases type with
  | bool =>
    cases h
    exact ⟨_, rfl⟩
  | int width signed order =>
    obtain ⟨n, -, h⟩ := exists_of_bind_eq_ok h
    exact storeWhole_belongsTo order h
  | object => trivial
  | _ =>
    obtain ⟨x, -, rfl⟩ := map_eq_ok_iff.1 h
    exact ⟨_, rfl⟩

theorem store_belongsTo {type : ElementType} (htype : type.isSized = true) {v : Value}
    {e : Element Value} (h : v.store type = .ok e) : e.BelongsTo type := by
  unfold store at h
  split at h
  · split at h
    · next hcast =>
      cases h
      exact Element.widen_belongsTo (Element.cast_belongsTo htype hcast)
    · split at h
      · obtain ⟨n, -, rfl⟩ := map_eq_ok_iff.1 h
        exact ⟨_, rfl⟩
      · exact storePlain_belongsTo h
  · exact storePlain_belongsTo h

end Value

namespace Table

theorem element_belongsTo {type : ElementType} {s : List Char} {e : Element Value}
    (h : element type s = .ok e) : e.BelongsTo type := by
  have hsome : element? type s = some e := by
    unfold element at h
    split at h
    · next he => rw [he, Except.ok.inj h]
    · cases h
  cases type with
  | bool =>
    obtain ⟨n, -, rfl⟩ := Option.map_eq_some_iff.1 hsome
    exact ⟨_, rfl⟩
  | int width signed order =>
    obtain ⟨n, hn, rfl⟩ := Option.map_eq_some_iff.1 hsome
    exact ⟨n, rfl, (Option.filter_eq_some_iff.1 hn).2⟩
  | float size order =>
    cases size <;>
    · obtain ⟨d, -, rfl⟩ := Option.map_eq_some_iff.1 hsome
      exact ⟨_, rfl⟩
  | text length order =>
    cases hsome
    exact ⟨_, rfl⟩
  | bytes length =>
    unfold element? at hsome
    simp only at hsome
    split at hsome
    · cases hsome
      exact ⟨_, rfl⟩
    · cases hsome
  | object => trivial

end Table

/-! ### Loaded arrays -/

namespace TypedArray

/-- All elements belong to the type, which has a width that a name can give it. -/
structure WellFormed (a : TypedArray) : Prop where
  isSized : a.type.isSized = true
  belongsTo : ∀ e ∈ a.elements, e.BelongsTo a.type

/-- An array of an integer type consists of integers that can be written. -/
theorem WellFormed.exists_ints {a : TypedArray} (h : a.WellFormed) {width : Nat} {signed : Bool}
    {order : ByteOrder} (htype : a.type = .int width signed order) :
    ∃ ns : List Int, a.elements = ns.map .int ∧ ∀ n ∈ ns, Text.isWritable n = true := by
  have hsized : (ElementType.int width signed order).isSized = true := htype ▸ h.isSized
  have helements := h.belongsTo
  rw [htype] at helements
  generalize a.elements = elements at helements ⊢
  induction elements with
  | nil => exact ⟨[], rfl, nofun⟩
  | cons e rest ih =>
    obtain ⟨ns, rfl, hns⟩ := ih fun f hf => helements f (List.mem_cons_of_mem e hf)
    obtain ⟨n, rfl, hn⟩ := helements e (List.mem_cons_self ..)
    exact ⟨n :: ns, rfl, List.forall_mem_cons.2 ⟨ElementType.isWritable_of_holds hsized hn, hns⟩⟩

/-- The elements of an array that is not one of objects have plain values. -/
theorem WellFormed.plainValue {a : TypedArray} (h : a.WellFormed) (htype : a.type ≠ .object) :
    ∀ e ∈ a.elements, TypedArray.plainValue e = .ok (valueOf e) := by
  intro e he
  have hbelongs := h.belongsTo e he
  generalize a.type = type at hbelongs htype
  cases type with
  | object => exact absurd rfl htype
  | int =>
    obtain ⟨n, rfl, -⟩ := hbelongs
    rfl
  | _ =>
    obtain ⟨x, rfl⟩ := hbelongs
    rfl

theorem wellFormed_of_mapM {α : Type} {f : α → Except Fault (Element Value)} {type : ElementType}
    (htype : type.isSized = true) (hf : ∀ x e, f x = .ok e → e.BelongsTo type) {l : List α}
    {elements : List (Element Value)} (h : l.mapM f = .ok elements) :
    WellFormed ⟨type, elements⟩ where
  isSized := htype
  belongsTo := by
    intro e he
    obtain ⟨x, -, hx⟩ := exists_of_mem_mapM h he
    exact hf x e hx

theorem isSized_settle {type : ElementType} (h : type.isSized = true) (length : Nat) :
    (type.settle length).isSized = true := by
  cases type with
  | text n order => cases n <;> rfl
  | bytes n => cases n <;> rfl
  | _ => exact h

theorem castElement_belongsTo {source target : ElementType} (htarget : target.isSized = true)
    {e f : Element Value} (h : castElement source target e = .ok f) : f.BelongsTo target := by
  unfold castElement at h
  split at h
  · next hcast =>
    cases h
    exact Element.cast_belongsTo htarget hcast
  · split at h
    · obtain ⟨n, -, rfl⟩ := map_eq_ok_iff.1 h
      exact ⟨_, rfl⟩
    · obtain ⟨n, -, rfl⟩ := map_eq_ok_iff.1 h
      exact ⟨_, rfl⟩
    · exact Value.store_belongsTo htarget h

theorem isSized_castType {a : TypedArray} {target type : ElementType}
    (htarget : target.isSized = true) (h : a.castType target = .ok type) : type.isSized = true := by
  unfold castType at h
  split at h
  · cases h
    rfl
  · unfold settleLength at h
    split at h
    · obtain ⟨lengths, -, h⟩ := exists_of_bind_eq_ok h
      cases h
      exact isSized_settle htarget _
    · cases h
      exact htarget
  · cases h
    exact isSized_settle htarget _

theorem cast_wellFormed {a b : TypedArray} {target : ElementType} (htarget : target.isSized = true)
    (h : a.cast target = .ok b) : b.WellFormed := by
  obtain ⟨type, htype, h⟩ := exists_of_bind_eq_ok h
  obtain ⟨elements, helements, h⟩ := exists_of_bind_eq_ok h
  cases h
  have hsized := isSized_castType htarget htype
  exact wellFormed_of_mapM hsized (fun _ _ => castElement_belongsTo hsized) helements

end TypedArray

theorem Table.parse_wellFormed {type : ElementType} (htype : type.isSized = true) {s : String}
    {a : TypedArray} (h : parse type s = .ok a) : a.WellFormed := by
  unfold parse at h
  simp only at h
  split at h
  · obtain ⟨elements, helements, h⟩ := exists_of_bind_eq_ok h
    cases h
    have hsized := TypedArray.isSized_settle htype
      ((Table.rows s.toList).flatten.foldl (fun n s => max n s.length) 1)
    exact TypedArray.wellFormed_of_mapM hsized (fun _ _ => element_belongsTo) helements
  · cases h

namespace ArrayFormat

theorem isSized_of_header? {text : List Char} {h : Header} (hh : header? text = some h) :
    h.type.isSized = true := by
  obtain ⟨type, htype, hh⟩ := Option.bind_eq_some_iff.1 hh
  obtain ⟨order, -, hh⟩ := Option.bind_eq_some_iff.1 hh
  obtain ⟨shape, -, hh⟩ := Option.bind_eq_some_iff.1 hh
  cases hh
  unfold type? at htype
  split at htype
  · exact ElementType.isSized_of_ofName? htype
  · cases htype

theorem elements?_belongsTo {h : Header} (hsized : h.type.isSized = true) {bytes : List UInt8}
    {elements : List (Element Value)} (he : elements? h bytes = some elements) :
    ∀ e ∈ elements, e.BelongsTo h.type := by
  intro e hmem
  unfold elements? at he
  simp only at he
  split at he
  · cases he
  · obtain ⟨stored, hstored, he⟩ := Option.bind_eq_some_iff.1 he
    have hall : ∀ e ∈ stored, e.BelongsTo h.type := by
      intro e he
      obtain ⟨group, -, hgroup⟩ := exists_of_mem_mapM_some hstored he
      exact Element.decode_belongsTo hsized hgroup
    split at he
    · obtain ⟨offset, -, hoffset⟩ := exists_of_mem_mapM_some he hmem
      exact hall e (List.mem_of_getElem? hoffset)
    · cases he
      exact hall e hmem

theorem read?_wellFormed {bytes : List UInt8} {a : TypedArray} (h : read? bytes = some a) :
    a.WellFormed := by
  obtain ⟨⟨text, rest⟩, -, h⟩ := Option.bind_eq_some_iff.1 h
  obtain ⟨header, hheader, h⟩ := Option.bind_eq_some_iff.1 h
  obtain ⟨elements, helements, h⟩ := Option.bind_eq_some_iff.1 h
  cases h
  have hsized := isSized_of_header? hheader
  exact ⟨hsized, elements?_belongsTo hsized helements⟩

/-- No text is an array file: the signature begins with a byte that begins no character. -/
theorem read?_encode (s : String) : read? (Text.Utf8.encode s) = none := by
  have hsplit : split? (Text.Utf8.encode s) = none := by
    refine if_neg fun hprefix => ?_
    obtain ⟨rest, hrest⟩ := List.isPrefixOf_iff_prefix.1 hprefix
    have hdecode := Text.Utf8.decode_encode s
    rw [← hrest] at hdecode
    cases hdecode
  rw [read?, hsplit]
  rfl

end ArrayFormat

namespace StoredFile

theorem asArray_wellFormed {bytes : List UInt8} {a : TypedArray}
    (h : (ofBytes bytes).asArray = .ok a) : a.WellFormed := by
  cases hb : ArrayFormat.read? bytes with
  | some b =>
    rw [show ofBytes bytes = array b by rw [ofBytes, hb], asArray] at h
    split at h
    · cases h
    · cases h
      exact ArrayFormat.read?_wellFormed hb
  | none =>
    cases hd : Text.Utf8.decode bytes with
    | ok s =>
      rw [show ofBytes bytes = text s by rw [ofBytes, hb, hd]] at h
      cases h
    | error m =>
      rw [show ofBytes bytes = other m by rw [ofBytes, hb, hd]] at h
      cases h

theorem isSized_of_typeNamed {name : String} {t : ElementType} (h : typeNamed name = .ok t) :
    t.isSized = true := by
  unfold typeNamed at h
  split at h
  · next ht =>
    cases h
    exact ElementType.isSized_of_ofName? ht
  · cases h

theorem isSized_tableType : tableType.isSized = true := rfl

/-- **An array that is loaded from a file consists of elements of its type.** -/
theorem read_wellFormed {bytes : List UInt8} {name : String} {typeName : Option String}
    {a : TypedArray} (h : (ofBytes bytes).read name typeName = .ok a) : a.WellFormed := by
  unfold read at h
  split at h
  · obtain ⟨b, hb, h⟩ := exists_of_bind_eq_ok h
    split at h
    · cases h
      exact asArray_wellFormed hb
    · obtain ⟨type, htype, h⟩ := exists_of_bind_eq_ok h
      exact TypedArray.cast_wellFormed (isSized_of_typeNamed htype) h
  · obtain ⟨s, -, h⟩ := exists_of_bind_eq_ok h
    cases hrefusal : (Compression.ofPath? name).bind (·.refusal? (Text.Utf8.encode s)) with
    | some f =>
      simp only [hrefusal] at h
      split at h
      · cases h
      · cases h
      · obtain ⟨type, -, h⟩ := exists_of_bind_eq_ok h
        cases h
    | none =>
      simp only [hrefusal] at h
      split at h
      · exact Table.parse_wellFormed isSized_tableType h
      · exact Table.parse_wellFormed isSized_tableType h
      · obtain ⟨type, htype, h⟩ := exists_of_bind_eq_ok h
        exact Table.parse_wellFormed (isSized_of_typeNamed htype) h

/-- A text under a name that is not that of an array file is read as a table. -/
theorem load_table {contents : String → Except Fault (List UInt8)} {name typeName s : String}
    {type : ElementType} (hcontents : contents name = .ok (Text.Utf8.encode s))
    (hname : name.endsWith arrayEnding = false) (hpath : Compression.ofPath? name = none)
    (htype : typeNamed typeName = .ok type) :
    load (fun name => (contents name).map ofBytes) name (some typeName) = Table.parse type s := by
  have hne : typeName ≠ "" := by
    rintro rfl
    cases htype
  rw [load, hcontents]
  change read name (some typeName) (ofBytes (Text.Utf8.encode s)) = _
  rw [read, hname, ofBytes, ArrayFormat.read?_encode, Text.Utf8.decode_encode]
  simp only [Bool.false_eq_true, if_false, asText, hpath, Option.bind_none, htype]
  rfl

theorem ne_dash_of_load {files : String → Except Fault StoredFile} {name typeName : String}
    {a : TypedArray} (h : load files name (some typeName) = .ok a) (r : List Char) :
    typeName.toList ≠ '-' :: r := by
  intro hdash
  have htype : typeNamed typeName = .error (.unknownElementType typeName) := by
    rw [typeNamed, ElementType.ofName?_of_dash hdash]
  obtain ⟨file, -, h⟩ := exists_of_bind_eq_ok h
  unfold read at h
  split at h
  · obtain ⟨b, -, h⟩ := exists_of_bind_eq_ok h
    simp only at h
    rw [htype] at h
    cases h
  · obtain ⟨s, -, h⟩ := exists_of_bind_eq_ok h
    simp only at h
    split at h
    · next he => cases he
    · next he =>
      cases he
      cases hdash
    · next he =>
      cases he
      rw [htype] at h
      cases h

theorem load_wellFormed {contents : String → Except Fault (List UInt8)} {name : String}
    {typeName : Option String} {a : TypedArray}
    (h : load (fun name => (contents name).map ofBytes) name typeName = .ok a) : a.WellFormed := by
  obtain ⟨file, hfile, h⟩ := exists_of_bind_eq_ok h
  obtain ⟨bytes, -, rfl⟩ := map_eq_ok_iff.1 hfile
  exact read_wellFormed h

end StoredFile

end Strided
