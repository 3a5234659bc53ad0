import Strided.Proofs.ArrayFormat
import Strided.Proofs.CommandLine.Check
import Strided.Proofs.View.Subscript

/-!
# Emission as bytes

An array of truth values or integers is emitted as bytes without a loss (`emission_is_faithful`).
The elements leave the array as plain values and are stored again one by one; an element that
belongs to the type of the array comes back as it was (`store_valueOf`), so its chunk is its bytes
in the array (`elementChunk_valueOf`), and these can be read back (`Element.isStored_encode`).

What a subscript gives is an element or a view.  A view has an array of its own by one slice, and
that slice picks the same elements as the subscript (`Window.pick_toSlice_narrow`), so that what is
emitted of the view is also the bytes of its array.
-/

namespace Strided

/-- The slice that a narrowed window stands for picks what the narrowing slice picks from what the
window stands for. -/
theorem Window.pick_toSlice_narrow {α : Type} {xs : List α} {w : Window} (hw : w.Fits xs.length)
    {s : Slice} {b : Bounds} (hb : s.normalize w.length = .ok b) :
    (w.narrow b (Slice.step_of_normalize hb).2).toSlice.pick xs = s.pick (w.toSlice.pick xs) := by
  obtain ⟨-, hlength, hget⟩ := pick_toSlice hw
  obtain ⟨-, hlength', hget'⟩ := pick_toSlice (hw.narrow hb)
  rw [length_narrow] at hlength' hget'
  rw [← hlength] at hb
  have hcount : (s.pick (w.toSlice.pick xs)).length = b.count := by
    rw [Slice.length_pick, Slice.length_positions hb]
  refine List.ext_getElem? fun k => ?_
  by_cases hk : k < b.count
  · obtain ⟨hlo, hhi⟩ := Slice.index_mem hb hk
    rw [hget' k hk, linearIndex_narrow, Slice.getElem?_pick hb hk, hget _ (by omega),
      Int.toNat_of_nonneg hlo]
  · rw [List.getElem?_eq_none (by omega), List.getElem?_eq_none (by omega)]

theorem Window.pick_toSlice_whole {α : Type} (xs : List α) :
    (whole xs.length).toSlice.pick xs = xs := by
  obtain ⟨-, hlength, hget⟩ := pick_toSlice (fits_whole xs.length)
  refine List.ext_getElem? fun k => ?_
  by_cases hk : k < xs.length
  · rw [hget k hk, linearIndex_whole, Int.toNat_natCast]
  · rw [List.getElem?_eq_none (by rw [hlength, length_whole]; omega),
      List.getElem?_eq_none (by omega)]

namespace CommandLine

/-! ### Elements stored again -/

section Elements

variable {type : ElementType} (hsized : type.isSized = true) (hintegral : type.isIntegral = true)
include hsized hintegral

theorem elementChunk_valueOf {e : Element Value} (h : e.BelongsTo type) :
    elementChunk type true (TypedArray.valueOf e) = .ok (Element.encode type e) := by
  rw [elementChunk, if_pos rfl, store_valueOf hsized hintegral h]
  rfl

theorem outcome_chunksOf_binary {checks : Bool} {result : Selected Value}
    {elements : List (Element Value)}
    (hresult : (elementsOf checks result).outcome = .ok (elements.map TypedArray.valueOf))
    (h : ∀ e ∈ elements, e.BelongsTo type) :
    (chunksOf checks type true result).outcome = .ok (elements.map (Element.encode type)) := by
  rw [outcome_chunksOf hresult, mapM_eq_ok_iff, List.forall₂_map_left_iff,
    List.forall₂_map_right_iff, List.forall₂_same]
  exact fun e he => elementChunk_valueOf hsized hintegral (h e he)

end Elements

/-! ### What a subscript selects -/

/-- What a subscript selects from a list: the element at an index, or what a slice picks. -/
inductive Selects {α : Type} (xs : List α) : Value → List α → Prop
  | index {subscript : Value} {i : Int} {k : Nat} {x : α} : subscript.toIndex = .ok i →
      i = k ∨ i = k - xs.length → xs[k]? = some x → Selects xs subscript [x]
  | slice {start stop step : Value} {s : Slice} : Slice.ofValues start stop step = .ok s →
      s.step ≠ some 0 → Selects xs (.slice start stop step) (s.pick xs)

theorem Selects.subset {α : Type} {xs ys : List α} {subscript : Value}
    (h : Selects xs subscript ys) : ys ⊆ xs := by
  cases h with
  | index _ _ hx => exact fun y hy => List.mem_singleton.1 hy ▸ List.mem_of_getElem? hx
  | slice => exact fun y hy => Slice.mem_of_mem_pick hy

section Selected

variable {a : TypedArray} {id : Nat} {className : String} {kind : ViewKind} {v : View Value}
  (hv : v = ⟨kind, .ofArray id className kind a, Window.whole a.size⟩)
  (hshows : v.Shows a.toValues) (checks : Bool)
include hv hshows

/-- A subscript that selects elements gives them; if they are several, as a view with an array of
these. -/
theorem exists_selected {subscript : Value} {elements : List (Element Value)}
    (h : Selects a.elements subscript elements) :
    ∃ result, (v.get checks subscript).outcome = .ok result ∧
      (elementsOf checks result).outcome = .ok (elements.map TypedArray.valueOf) ∧
      ∀ w, result = .view w → w.kind = kind ∧ w.backing = .ofArray id className kind a ∧
        View.arrayOf (.ofArray id className kind a) w = .ok ⟨a.type, elements⟩ := by
  have hsize : v.size = a.size := by
    rw [hv]
    rfl
  cases h with
  | @index subscript i k x hi hk hx =>
    have hvalue : a.toValues[k]? = some (TypedArray.valueOf x) := by
      rw [TypedArray.toValues, List.getElem?_map, hx]
      rfl
    have hget := hshows.get_int checks hvalue (by rwa [TypedArray.toValues, List.length_map])
    rw [View.get_int, ← View.get_of_toIndex checks v hi] at hget
    refine ⟨.element (TypedArray.valueOf x), by rw [hget], rfl, fun w hw => ?_⟩
    cases hw
  | @slice start stop step s hs hstep =>
    obtain ⟨b, hb⟩ := Slice.exists_normalize hstep v.size
    have hpicked := hshows.slice hb
    refine ⟨_, congrArg Traced.outcome (View.get_slice checks hs hb), ?_, ?_⟩
    · rw [outcome_elementsOf hpicked, TypedArray.toValues, Slice.pick_map]
    · rintro w ⟨⟩
      have hfits : (Window.whole a.elements.length).Fits a.elements.length := Window.fits_whole _
      subst hv
      refine ⟨rfl, rfl, ?_⟩
      rw [View.arrayOf_of_fits rfl (hfits.narrow hb)]
      refine congrArg (fun elements => Except.ok (TypedArray.mk a.type elements)) ?_
      exact (Window.pick_toSlice_narrow hfits hb).trans
        (congrArg s.pick (Window.pick_toSlice_whole a.elements))

omit hv in
theorem exists_selects {subscript : Value} {result : Selected Value}
    (h : (v.get checks subscript).outcome = .ok result) :
    ∃ elements, Selects a.elements subscript elements := by
  rcases View.exists_of_get h with ⟨start, stop, step, s, rfl, hs, hget⟩ | ⟨i, hi, hget⟩
  · obtain ⟨b, hb, -⟩ := View.eq_of_get_toValue hget
    refine ⟨_, .slice hs fun hzero => ?_⟩
    rw [Slice.normalize_of_zero hzero] at hb
    cases hb
  · have hlength : a.toValues.length = a.elements.length := List.length_map _
    by_cases hout : i < -a.toValues.length ∨ (a.toValues.length : Int) ≤ i
    · rw [hshows.get_int_out checks hout] at hget
      cases hget
    · obtain ⟨k, -, hlt, hk⟩ :=
        Slice.exists_fromStart (n := a.elements.length) (i := i) (by omega) (by omega)
      exact ⟨_, .index hi hk (List.getElem?_eq_getElem hlt)⟩

end Selected

/-! ### Emission -/

/-- **An array of truth values or integers is emitted as bytes without a loss.**  The type has any
width, sign and byte order, and the store is asked for its view.

* A subscript gives a result just if it selects elements of the array.
* The result is emitted to any callback as one chunk for each element, in order.  Each chunk has the
  size of an element and gives the element back, and the chunks together give back an array of the
  selected elements.
* If the result is a view, the chunks together are the bytes of its own array.
* There is no element of the type that is not stored, or whose bytes do not give it back. -/
theorem emission_is_faithful {a : TypedArray} (ha : a.WellFormed)
    (hintegral : a.type.isIntegral = true) (hsize : (a.size : Int) ≤ Number.Word.greatest)
    (id : Nat) (className : String) (kind : ViewKind) (checks : Bool) :
    let b := Backing.ofArray id className kind a
    ∃ v, View.ofBacking b = pure v ∧
      (∀ subscript, (∃ result, (v.get checks subscript).outcome = .ok result) ↔
        ∃ elements, Selects a.elements subscript elements) ∧
      (∀ subscript elements result, Selects a.elements subscript elements →
        (v.get checks subscript).outcome = .ok result →
        let chunks := elements.map (Element.encode a.type)
        (∀ (σ : Type) (call : σ → List UInt8 → Reply σ Unit) (s : σ),
          emit call checks a.type true s result = handAll call s chunks) ∧
        List.Forall₂ (Element.IsStored a.type) chunks elements ∧
        TypedArray.ofBytes? a.type chunks.flatten = some ⟨a.type, elements⟩ ∧
        ∀ w, result = .view w → ∃ r, View.arrayOf b w = .ok r ∧
          (kind = .numeric → w.toArray = .ok r) ∧ r.encode = chunks.flatten) ∧
      ∀ e : Element Value, e.BelongsTo a.type →
        elementChunk a.type true (TypedArray.valueOf e) = .ok (Element.encode a.type e) ∧
          Element.IsStored a.type (Element.encode a.type e) e := by
  intro b
  have hsized := ha.isSized
  have htype : a.type ≠ .object := by
    intro h
    rw [h] at hintegral
    cases hintegral
  have hshows := View.shows_full kind (Backing.holds_toValues id className kind ha htype hsize)
  rw [TypedArray.toValues, List.length_map] at hshows
  refine ⟨_, View.full_of_count kind (n := a.size) rfl, fun subscript => ⟨?_, ?_⟩, ?_, ?_⟩
  · rintro ⟨result, hresult⟩
    exact exists_selects hshows checks hresult
  · rintro ⟨elements, helements⟩
    obtain ⟨result, hresult, -⟩ := exists_selected rfl hshows checks helements
    exact ⟨result, hresult⟩
  · intro subscript elements result hselects hresult chunks
    obtain ⟨_, hget, hpicked, harray⟩ := exists_selected rfl hshows checks hselects
    obtain rfl := Except.ok.inj (hget.symm.trans hresult)
    have hbelongs : ∀ e ∈ elements, e.BelongsTo a.type := fun e he =>
      ha.belongsTo e (hselects.subset he)
    have hchunks := outcome_chunksOf_binary hsized hintegral hpicked hbelongs
    have hstored : List.Forall₂ (Element.IsStored a.type) chunks elements := by
      rw [List.forall₂_map_left_iff, List.forall₂_same]
      exact fun e he => Element.isStored_encode hsized hintegral (hbelongs e he)
    refine ⟨fun σ call s => emit_eq call hchunks s, hstored,
      TypedArray.ofBytes?_flatten (ElementType.size_pos hsized hintegral) hstored, ?_⟩
    rintro w rfl
    obtain ⟨hkind, hbacking, hw⟩ := harray w rfl
    refine ⟨_, hw, fun hnumeric => ?_, ?_⟩
    · rw [View.toArray, if_pos (hkind.trans hnumeric), hbacking, hw]
    · rw [TypedArray.encode, List.flatMap_def]
  · exact fun e he => ⟨elementChunk_valueOf hsized hintegral he,
      Element.isStored_encode hsized hintegral he⟩

/-- The least and the greatest integer of two bytes and minus one, highest bytes first, emitted from
the last to the first, to a callback that notes each chunk. -/
theorem emission_of_limits :
    let a : TypedArray := ⟨.int 2 true .big, [-32768, 32767, -1].map .int⟩
    let down : Slice := ⟨none, none, some (-1)⟩
    let note (noted : List (List UInt8)) (chunk : List UInt8) : Reply (List (List UInt8)) Unit :=
      .ok (noted ++ [chunk]) ()
    a.WellFormed ∧ a.type.isIntegral = true ∧ (a.size : Int) ≤ Number.Word.greatest ∧
    ∃ v w, View.ofBacking (Backing.ofArray 0 "NumpyBacking" .numeric a) = pure v ∧
      (v.get true down.toValue).outcome = .ok (.view w) ∧
      emit note true a.type true [] (.view w) = .ok [[0xff, 0xff], [0x7f, 0xff], [0x80, 0x00]] () ∧
      ∃ r, w.toArray = .ok r ∧ r.encode = [0xff, 0xff, 0x7f, 0xff, 0x80, 0x00] := by
  intro a down note
  have hholds : ∀ n ∈ [-32768, 32767, -1], ElementType.holds 2 true n = true := by decide
  have hwell : a.WellFormed := ⟨rfl, List.forall_mem_map.2 fun n hn => ⟨n, rfl, hholds n hn⟩⟩
  refine ⟨hwell, rfl, by decide, ?_⟩
  obtain ⟨v, hv, -, hemits, -⟩ :=
    emission_is_faithful hwell rfl (by decide) 0 "NumpyBacking" .numeric true
  obtain ⟨b, hb⟩ := Slice.exists_normalize (s := down) (by decide) v.size
  have hget := congrArg Traced.outcome (View.get_toValue true hb)
  have hselects : Selects a.elements down.toValue (down.pick a.elements) :=
    .slice rfl (by decide)
  have hpick : down.pick a.elements = [-1, 32767, -32768].map .int :=
    (Slice.pick_map Element.int down _).trans (congrArg (List.map Element.int) (by decide))
  have hchunks : (down.pick a.elements).map (Element.encode a.type) =
      [[0xff, 0xff], [0x7f, 0xff], [0x80, 0x00]] := by
    rw [hpick]
    rfl
  obtain ⟨hemit, -, -, harray⟩ := hemits _ _ _ hselects hget
  obtain ⟨r, -, hr, hbytes⟩ := harray _ rfl
  rw [hchunks] at hemit hbytes
  exact ⟨_, _, hv, hget, hemit _ note [], r, hr rfl, hbytes⟩

end CommandLine

end Strided
