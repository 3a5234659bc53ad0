import Strided.Proofs.CommandLine.Slicing
import Strided.Proofs.Slice.Fields

/-!
# What the check says

A result that a view gives is right, and the check says so unless there is a NaN in it:
`check_rejects_only_nan`.  The check subscripts the array a second time and compares what comes out
with the result, so three things have to be the same: what the subscript picks from the array
(`pick_of_slice`, `pick_of_index`), the elements of the view (`View.Shows`) and, for a view, the
elements of its own array (`View.Shows.exists_toArray`).  They are, and what is left is to compare
values with themselves, which only fails for a NaN (`equalLists_self`).
-/

namespace Strided

/-! ### Values compared with themselves -/

def Value.isNaN : Value → Bool
  | .float d _ => d.isNaN
  | _ => false

theorem Number.Double.equals_self (d : Number.Double) : d.equals d = !d.isNaN := by
  rw [Number.Double.equals, beq_self_eq_true, Bool.true_or, Bool.and_true]

theorem TypedArray.equals_valueOf {e : Element Value}
    (h : TypedArray.plainValue e = .ok (valueOf e)) :
    (valueOf e).equals (valueOf e) = .ok !(valueOf e).isNaN := by
  cases e with
  | foreign v =>
    cases v with
    | scalar type e mark => cases e <;> cases h
    | _ => cases h
  | bool b =>
    simp only [valueOf, Value.equals]
    exact congrArg Except.ok (beq_self_eq_true (if b then (1 : Int) else 0))
  | int n =>
    simp only [valueOf, Value.equals]
    exact congrArg Except.ok (beq_self_eq_true n)
  | float d =>
    simp only [valueOf, Value.equals]
    exact congrArg Except.ok d.equals_self
  | text s =>
    simp only [valueOf, Value.equals]
    exact congrArg Except.ok (beq_self_eq_true s)
  | bytes b =>
    simp only [valueOf, Value.equals]
    exact congrArg Except.ok (beq_self_eq_true b)

namespace CommandLine

theorem equalLists_self {xs : List Value} (h : ∀ x ∈ xs, x.equals x = .ok !x.isNaN) :
    equalLists xs xs = .ok !xs.any Value.isNaN := by
  rw [equalLists, if_pos rfl]
  induction xs with
  | nil => rfl
  | cons x rest ih =>
    have ih := ih fun y hy => h y (List.mem_cons_of_mem x hy)
    rw [equalElements, h x (List.mem_cons_self ..), List.any_cons, ih]
    cases x.isNaN <;> rfl

end CommandLine

/-! ### What a subscript picks from an array -/

namespace TypedArray

variable {a : TypedArray}

theorem pick_of_slice {start stop step : Value} {s : Slice}
    (h : Slice.ofValues start stop step = .ok s) (hs : s.step ≠ some 0) :
    a.pick (.slice start stop step) =
      .ok (.array [(s.pick a.elements).length] (s.pick a.elements)) := by
  obtain ⟨b, hb⟩ := Slice.exists_normalize hs a.elements.length
  have hcomponents : ArrayIndex.ofSubscript (.slice start stop step) = .ok [.range s] := by
    change ((Slice.ofPlainValues start stop step).map _).map _ = _
    rw [Slice.ofPlainValues_of_ofValues h hs]
    rfl
  rw [pick, hcomponents]
  change (a.pickAlong (.range s) >>= _) = _
  rw [pickAlong, Slice.select_of_normalize hb]
  rfl

theorem pick_of_index {subscript : Value} {i : Int} {e : Element Value}
    (h : subscript.toIndex = .ok i) (hbool : ∀ b, subscript ≠ .bool b) (he : a.read i = .ok e) :
    a.pick subscript = .ok (.element e) := by
  have hcomponents : ArrayIndex.ofSubscript subscript = .ok [.position i] := by
    cases subscript with
    | bool b => exact absurd rfl (hbool b)
    | scalar type e mark =>
      cases e with
      | int n =>
        cases h
        rfl
      | _ => cases h
    | int n =>
      cases h
      rfl
    | index answer mark =>
      simp only [ArrayIndex.ofSubscript, ArrayIndex.ofValue, h]
      rfl
    | _ => cases h
  rw [pick, hcomponents]
  change (a.pickAlong (.position i) >>= _) = _
  rw [pickAlong, he]
  rfl

end TypedArray

/-! ### What a subscript picks from a view -/

namespace View

variable {checks : Bool} {v : View Value} {xs : List Value}

/-- A subscript that a view takes is a slice or an index. -/
theorem exists_of_get {subscript : Value} {result : Selected Value}
    (h : (v.get checks subscript).outcome = .ok result) :
    (∃ start stop step s, subscript = .slice start stop step ∧
      Slice.ofValues start stop step = .ok s ∧ (v.get checks s.toValue).outcome = .ok result) ∨
    ∃ i, subscript.toIndex = .ok i ∧ (v.get checks (.int i)).outcome = .ok result := by
  rw [get] at h
  unfold subSlice at h
  split at h
  · next start stop step =>
    cases hs : Slice.ofValues start stop step with
    | ok s =>
      simp only [hs] at h
      refine .inl ⟨start, stop, step, s, rfl, hs, ?_⟩
      rwa [get, subSlice_toValue]
    | error e =>
      simp only [hs] at h
      split at h
      · next he => cases he
      · cases h
      · cases h
  · cases hi : subscript.toIndex with
    | ok i =>
      refine .inr ⟨i, rfl, ?_⟩
      rw [hi] at h
      exact h
    | error e =>
      rw [hi] at h
      simp only at h
      split at h <;> cases h

/-- The array of a view has the values that the view shows. -/
theorem Shows.exists_toArray (h : v.Shows xs) {id : Nat} {className : String} {kind : ViewKind}
    {a : TypedArray} (hbacking : v.backing = .ofArray id className kind a)
    (hkind : v.kind = .numeric)
    (hplain : ∀ e ∈ a.elements, TypedArray.plainValue e = .ok (TypedArray.valueOf e))
    (hsize : (a.size : Int) ≤ Number.Word.greatest) :
    ∃ r, v.toArray = .ok r ∧ r.toValues = xs := by
  have hfits : v.window.Fits a.size := by
    obtain ⟨n, hn, hfits⟩ := h.fits
    rw [hbacking] at hn
    cases hn
    exact hfits
  obtain ⟨-, hlen, hget⟩ := Window.pick_toSlice (show v.window.Fits a.elements.length from hfits)
  refine ⟨⟨a.type, v.window.toSlice.pick a.elements⟩, ?_, ?_⟩
  · rw [toArray, if_pos hkind, hbacking]
    exact arrayOf_of_fits hbacking hfits
  · refine List.ext_getElem ?_ fun k hk hk' => ?_
    · rw [TypedArray.toValues, List.length_map, hlen, ← h.size]
      rfl
    · have hlt : k < v.window.length := h.lt_length (List.getElem?_eq_getElem hk')
      obtain ⟨hlo, hhi⟩ := hfits k hlt
      have he := List.getElem?_eq_getElem
        (show (v.window.linearIndex k).toNat < a.elements.length from by
          change _ < a.size
          omega)
      have hread := h.read k _ (List.getElem?_eq_getElem hk')
      rw [hbacking, Backing.read_ofArray id className kind hlo he hsize,
        hplain _ (List.getElem_mem _)] at hread
      obtain ⟨hk, hpicked⟩ := List.getElem?_eq_some_iff.1 ((hget k hlt).trans he)
      simp only [TypedArray.toValues, List.getElem_map, hpicked]
      exact Except.ok.inj hread

end View

/-! ### The verdict -/

namespace CommandLine

section Verdict

variable {room : Nat} {checks : Bool} {a : TypedArray} {id : Nat} {className : String}
  {v : View Value} (hbacking : v.backing = .ofArray id className .numeric a)
  (hshows : v.Shows a.toValues)
  (hplain : ∀ e ∈ a.elements, TypedArray.plainValue e = .ok (TypedArray.valueOf e))
  (hsize : (a.size : Int) ≤ Number.Word.greatest) (hroom : a.size ≤ room)

include hplain in
theorem equals_of_mem {x : Value} (hx : x ∈ a.toValues) : x.equals x = .ok !x.isNaN := by
  obtain ⟨e, he, rfl⟩ := List.mem_map.1 hx
  exact TypedArray.equals_valueOf (hplain e he)

include hplain in
theorem viewAgrees_of_shows {w : View Value} {elements : List (Element Value)} {n : Nat}
    (hbacking : w.backing = .ofArray id className .numeric a) (hkind : w.kind = .numeric)
    (hw : w.Shows (elements.map TypedArray.valueOf)) (helements : elements ⊆ a.elements)
    (hlength : elements.length ≤ a.size) (hsize : (a.size : Int) ≤ Number.Word.greatest)
    (hroom : a.size ≤ room) : (viewAgrees room checks w (.array [n] elements)).outcome =
      .ok !(elements.map TypedArray.valueOf).any Value.isNaN := by
  have hself : equalLists (elements.map TypedArray.valueOf) (elements.map TypedArray.valueOf) =
      .ok !(elements.map TypedArray.valueOf).any Value.isNaN :=
    equalLists_self fun x hx => equals_of_mem hplain (List.map_subset _ helements hx)
  have hlist : (w.toListWithin room checks).outcome = .ok (elements.map TypedArray.valueOf) := by
    rw [← List.length_map TypedArray.valueOf] at hlength
    rw [hw.toListWithin (hlength.trans (by rw [View.maxLength]; omega)) checks
      (hlength.trans hroom)]
  obtain ⟨r, hr, hvalues⟩ := hw.exists_toArray hbacking hkind hplain hsize
  rw [viewAgrees, Traced.bind_of_ok hlist]
  simp only [hself, hr, hvalues, Traced.ofExcept_ok, Traced.pure_bind]
  -- The second comparison is only made where the first has not failed, and says the same.
  cases (elements.map TypedArray.valueOf).any Value.isNaN <;> rfl

include hshows hplain hsize

include hbacking hroom in
theorem agrees_slice {start stop step : Value} {s : Slice} {result : Selected Value}
    (hs : Slice.ofValues start stop step = .ok s)
    (hget : (v.get checks s.toValue).outcome = .ok result) :
    (elementsOf checks result).outcome = .ok (s.pick a.toValues) ∧
      (agrees room checks a (.slice start stop step) result).outcome =
        .ok !(s.pick a.toValues).any Value.isNaN := by
  obtain ⟨b, hb, rfl⟩ := View.eq_of_get_toValue hget
  have hstep : s.step ≠ some 0 := fun h => by
    rw [Slice.normalize_of_zero h] at hb
    cases hb
  have hkind : (v.narrow b (Slice.step_of_normalize hb).2).kind = .numeric :=
    congrArg Backing.viewKind hbacking
  have hpicked := hshows.slice hb
  refine ⟨outcome_elementsOf hpicked, ?_⟩
  rw [TypedArray.toValues, Slice.pick_map] at hpicked ⊢
  rw [agrees, TypedArray.pick_of_slice hs hstep, Traced.ofExcept_ok, Traced.pure_bind]
  simp only [hkind, if_true]
  exact viewAgrees_of_shows hplain hbacking hkind hpicked (fun e he => Slice.mem_of_mem_pick he)
    (s.length_pick_le a.elements) hsize hroom

theorem agrees_index {subscript : Value} {i : Int} {result : Selected Value}
    (hi : subscript.toIndex = .ok i) (hbool : ∀ b, subscript ≠ .bool b)
    (hget : (v.get checks (.int i)).outcome = .ok result) :
    ∃ x ∈ a.toValues, (elementsOf checks result).outcome = .ok [x] ∧
      (agrees room checks a subscript result).outcome = .ok !x.isNaN := by
  have hlen : a.toValues.length = a.size := List.length_map _
  by_cases hout : i < -a.toValues.length ∨ (a.toValues.length : Int) ≤ i
  · rw [hshows.get_int_out checks hout] at hget
    cases hget
  · obtain ⟨k, -, hlt, hk⟩ := Slice.exists_fromStart (n := a.size) (i := i) (by omega) (by omega)
    have he : a.elements[k]? = some a.elements[k] := List.getElem?_eq_getElem hlt
    have hx : a.toValues[k]? = some (TypedArray.valueOf a.elements[k]) := by
      rw [TypedArray.toValues, List.getElem?_map, he]
      rfl
    rw [hshows.get_int checks hx (by rwa [hlen])] at hget
    cases hget
    refine ⟨_, List.mem_of_getElem? hx, rfl, ?_⟩
    have hread := TypedArray.read_of_index hk he hsize
    rw [agrees, TypedArray.pick_of_index hi hbool hread, Traced.ofExcept_ok, Traced.pure_bind]
    simp only [single, hplain _ (List.getElem_mem hlt), Traced.ofExcept_ok, Traced.pure_bind]
    exact equals_of_mem hplain (List.mem_of_getElem? hx)

include hbacking hroom in
/-- The check never fails, and it turns down what has a NaN in it. -/
theorem exists_verdict {subscript : Value} {result : Selected Value}
    (hbool : ∀ b, subscript ≠ .bool b) (hget : (v.get checks subscript).outcome = .ok result) :
    ∃ values, (∀ x ∈ values, x ∈ a.toValues) ∧ (elementsOf checks result).outcome = .ok values ∧
      (agrees room checks a subscript result).outcome = .ok !values.any Value.isNaN := by
  rcases View.exists_of_get hget with ⟨start, stop, step, s, rfl, hs, hget⟩ | ⟨i, hi, hget⟩
  · obtain ⟨helements, hagrees⟩ := agrees_slice hbacking hshows hplain hsize hroom hs hget
    exact ⟨s.pick a.toValues, fun x hx => Slice.mem_of_mem_pick hx, helements, hagrees⟩
  · obtain ⟨x, hx, helements, hagrees⟩ := agrees_index hshows hplain hsize hi hbool hget
    refine ⟨[x], fun y hy => List.mem_singleton.1 hy ▸ hx, helements, ?_⟩
    rw [hagrees, List.any_cons, List.any_nil, Bool.or_false]

end Verdict

theorem isNaN_of_mem_toValues {a : TypedArray} (ha : a.WellFormed) (htype : a.type ≠ .object)
    (hfloat : ∀ size order, a.type ≠ .float size order) {x : Value} (hx : x ∈ a.toValues) :
    x.isNaN = false := by
  obtain ⟨e, he, rfl⟩ := List.mem_map.1 hx
  have hbelongs := ha.belongsTo e he
  generalize a.type = type at hbelongs htype hfloat
  cases type with
  | float size order => exact absurd rfl (hfloat size order)
  | object => exact absurd rfl htype
  | int =>
    obtain ⟨n, rfl, -⟩ := hbelongs
    rfl
  | _ =>
    obtain ⟨y, rfl⟩ := hbelongs
    rfl

theorem any_isNaN_eq_false {a : TypedArray} {values : List Value}
    (hvalues : ∀ x ∈ values, x ∈ a.toValues) (h : ∀ x ∈ a.toValues, x.isNaN = false) :
    values.any Value.isNaN = false :=
  List.any_eq_false.2 fun x hx => Bool.eq_false_iff.1 (h x (hvalues x hx))

/-! ### An array of floating-point numbers -/

def floats (ds : List Number.Double) : TypedArray := ⟨.float .double .little, ds.map .float⟩

theorem wellFormed_floats (ds : List Number.Double) : (floats ds).WellFormed :=
  ⟨rfl, List.forall_mem_map.2 fun d _ => ⟨d, rfl⟩⟩

/-! ### The program -/

/-- The program, asked for a check, ends well unless there is a NaN in what it has written. -/
theorem ending_of_check {room : Nat} {checks : Bool} {a : TypedArray} {args : Arguments} {text : String}
    {subscript : Subscript} {result : Selected Value} {values : List Value}
    (hcheck : args.check = true) (ha : a.WellFormed) (htype : a.type ≠ .object)
    (hget : ((loadedView a).get checks subscript.toValue).outcome = .ok result)
    (hvalues : ∀ x ∈ values, x ∈ a.toValues)
    (helements : (elementsOf checks result).outcome = .ok values)
    (hagrees : (agrees room checks a subscript.toValue result).outcome = .ok !values.any Value.isNaN) :
    (subscriptArrayWithin room checks a args text subscript).ending =
      .done (if values.any Value.isNaN then 1 else 0) := by
  have hchunk : ∀ x ∈ values, ∃ chunk, elementChunk a.type args.binary x = .ok chunk := by
    intro x hx
    obtain ⟨e, he, rfl⟩ := List.mem_map.1 (hvalues x hx)
    exact exists_elementChunk ha.isSized htype args.binary (ha.belongsTo e he)
  obtain ⟨chunks, hchunks⟩ := exists_mapM hchunk
  obtain ⟨output, hwrite⟩ := exists_writeOut hchunks
  have hending := (subscriptArray_of_ok room args text hget
    ((outcome_chunksOf helements).trans hchunks) hwrite).2
  rw [hending, if_pos hcheck, hagrees]
  cases values.any Value.isNaN <;> rfl

/-- **The check of a result that a view gives fails for a NaN only.**  It never breaks off, whatever
the subscript, unless that is a truth value: an array takes one for a mask.  So the program, asked
for a check, ends well unless it has written a NaN.  There has to be room for a list of as many
elements as the array has. -/
theorem check_rejects_only_nan {a : TypedArray} (ha : a.WellFormed) (htype : a.type ≠ .object)
    (hsize : (a.size : Int) ≤ Number.Word.greatest) {room : Nat} (hroom : a.size ≤ room) :
    (∀ {id : Nat} {className : String} {checks : Bool} {v : View Value} {subscript : Value}
      {result : Selected Value},
      (View.ofBacking (.ofArray id className .numeric a)).outcome = .ok v →
      (∀ b, subscript ≠ .bool b) → (v.get checks subscript).outcome = .ok result →
      ∃ values, (∀ x ∈ values, x ∈ a.toValues) ∧ (elementsOf checks result).outcome = .ok values ∧
        (agrees room checks a subscript result).outcome = .ok !values.any Value.isNaN) ∧
    (∀ {settings : Settings} {files : String → Except Fault StoredFile} {argv : List String}
      {args : Arguments} {text : String} {subscript : Subscript} {result : Selected Value},
      Invocation settings files argv args text subscript a → args.check = true →
      ((loadedView a).get settings.debugChecks subscript.toValue).outcome = .ok result →
      ∃ values, (∀ x ∈ values, x ∈ a.toValues) ∧
        (elementsOf settings.debugChecks result).outcome = .ok values ∧
        (runWithin room settings files argv).ending =
          .done (if values.any Value.isNaN then 1 else 0)) ∧
    ((∀ size order, a.type ≠ .float size order) → ∀ x ∈ a.toValues, x.isNaN = false) := by
  have hplain := ha.plainValue htype
  refine ⟨?_, ?_, fun hfloat x hx => isNaN_of_mem_toValues ha htype hfloat hx⟩
  · intro id className checks v subscript result hv hbool hget
    have hshows :=
      View.shows_full .numeric (Backing.holds_toValues id className .numeric ha htype hsize)
    rw [View.ofBacking, View.full_of_count (n := a.size) _ rfl] at hv
    cases hv
    rw [TypedArray.toValues, List.length_map] at hshows
    exact exists_verdict rfl hshows hplain hsize hroom hbool hget
  · intro settings files argv args text subscript result h hcheck hget
    have hbool : ∀ b, subscript.toValue ≠ .bool b := by
      cases subscript <;> rintro b ⟨⟩
    obtain ⟨values, hvalues, helements, hagrees⟩ :=
      exists_verdict rfl (shows_loadedView ha htype hsize) hplain hsize hroom hbool hget
    refine ⟨values, hvalues, helements, ?_⟩
    rw [h.run_eq]
    exact ending_of_check hcheck ha htype hget hvalues helements hagrees

/-- Infinities and zeros of either sign pass the check, and so do integers of a file. -/
theorem check_accepts_infinities :
    let a : TypedArray := floats
      [⟨0x7ff0000000000000⟩, ⟨0⟩, ⟨0x8000000000000000⟩, ⟨0xfff0000000000000⟩]
    let down : Slice := ⟨none, none, some (-1)⟩
    let argv := ["d.txt", "::-2", "--dtype=int64", "--check"]
    (∃ result, ((loadedView a).get true down.toValue).outcome = .ok result ∧
      (agrees 4 true a down.toValue result).outcome = .ok true) ∧
    (run .default (fun name => (twoRows name).map .ofBytes) argv).ending = .done 0 := by
  intro a down argv
  constructor
  · obtain ⟨b, hb⟩ := Slice.exists_normalize (s := down) (by decide) (loadedView a).size
    have hget := congrArg Traced.outcome (View.get_toValue true hb)
    have hbool : ∀ b, down.toValue ≠ .bool b := by rintro b ⟨⟩
    obtain ⟨values, hvalues, -, hagrees⟩ :=
      (check_rejects_only_nan (wellFormed_floats _) (by decide) (by decide) le_rfl).1
        (congrArg Traced.outcome (ofBacking_loadedBacking a)) hbool hget
    rw [any_isNaN_eq_false hvalues (by decide +kernel)] at hagrees
    exact ⟨_, hget, hagrees⟩
  · have hread : Arguments.read (Subscript.quoteNegativeSlices argv) =
        .ok { Arguments.empty with
          filename := some "d.txt"
          subscript := some "::-2"
          dtype := some "int64"
          check := true
          settled := true } := by
      decide +kernel
    have hinvocation : Invocation .default (fun name => (twoRows name).map .ofBytes) argv _ "::-2"
        (.slice ⟨none, none, some (-2)⟩) ⟨.int 8 true .little, [1, 2, 3, 4, 5, 6].map .int⟩ :=
      ⟨hread, ⟨_, rfl⟩, rfl, rfl, load_twoRows⟩
    obtain ⟨-, hprogram, hnumbers⟩ := check_rejects_only_nan
      (StoredFile.load_wellFormed load_twoRows) (by decide) (by decide)
      (show 6 ≤ View.listLimit by decide)
    obtain ⟨b, hb⟩ := Slice.exists_normalize (s := ⟨none, none, some (-2)⟩) (by decide) 6
    obtain ⟨values, hvalues, -, hending⟩ :=
      hprogram hinvocation rfl (congrArg Traced.outcome (View.get_toValue true hb))
    rw [any_isNaN_eq_false hvalues (hnumbers (by rintro size order ⟨⟩))] at hending
    exact hending

/-- A NaN is picked as what it is, and turned down. -/
theorem check_rejects_nan :
    let a : TypedArray := floats [.one, ⟨0x7ff8000000000000⟩]
    let down : Slice := ⟨none, none, some (-1)⟩
    a.WellFormed ∧ ∃ v result,
      (View.ofBacking (.ofArray 0 "NumpyBacking" .numeric a)).outcome = .ok v ∧
      (v.get true down.toValue).outcome = .ok result ∧
      (agrees View.listLimit true a down.toValue result).outcome = .ok false := by
  intro a down
  have hsize : (a.size : Int) ≤ Number.Word.greatest := by decide
  have hroom : a.size ≤ View.listLimit := by decide
  have hdown : Slice.ofValues .none .none (.int (-1)) = .ok down := rfl
  obtain ⟨b, hb⟩ := Slice.exists_normalize (s := down) (by decide) (loadedView a).size
  have hget := congrArg Traced.outcome (View.get_toValue true hb)
  obtain ⟨-, hagrees⟩ := agrees_slice rfl
    (shows_loadedView (wellFormed_floats _) (by decide) hsize)
    ((wellFormed_floats _).plainValue (by decide)) hsize hroom hdown hget
  refine ⟨wellFormed_floats _, loadedView a, _,
    congrArg Traced.outcome (ofBacking_loadedBacking a), hget, ?_⟩
  exact hagrees.trans (by decide +kernel)

end CommandLine

end Strided
