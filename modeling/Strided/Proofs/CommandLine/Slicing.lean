import Strided.Proofs.CommandLine.Options
import Strided.Proofs.CommandLine.Run

/-!
# Slicing on the command line

The program applied to a file of integers writes what its subscript picks from the list of these
integers, in decimal and a line each, and nothing at all if the subscript is refused: `run_slices`.

The text of a subscript decides between four ends.  For a loaded array each of them is a lemma
(`slice_wrote`, `index_wrote`, `slice_refused`, `index_refused`).  A text that is no subscript is
refused before the file is looked at, with one exception: the text `--` is dropped where the
arguments are read, and the program then breaks off over the nothing that is left.
-/

namespace Strided.CommandLine

/-- The program has done its work and has written integers, a line each, which the lines read back.
-/
structure Report.Wrote (r : Report) (ns : List Int) : Prop where
  ending : r.ending = .done 0
  output : r.output = Text.Utf8.encode (Text.decimalLines ns)
  readBack : ∃ s, Text.Utf8.decode r.output = .ok s ∧
    (Text.linesBetween Text.isLineEnd s.toList).map Text.integer? = ns.map some

/-! ### A loaded array of integers -/

section Loaded

variable {checks : Bool} {a : TypedArray} {args : Arguments} {text : String} {ns : List Int}

theorem subscriptArray_wrote {subscript : Subscript} {result : Selected Value}
    (hbinary : args.binary = false) (hcheck : args.check = false)
    (hget : ((loadedView a).get checks subscript.toValue).outcome = .ok result)
    (helements : (elementsOf checks result).outcome = .ok (ns.map .int))
    (hns : ∀ n ∈ ns, Text.isWritable n = true) :
    (subscriptArray checks a args text subscript).Wrote ns := by
  obtain ⟨chunks, hchunks, hwrite⟩ := writeOut_ints a.type hns
  obtain ⟨houtput, hending⟩ := subscriptArray_of_ok _ args text hget
    (by rw [outcome_chunksOf helements, hbinary, hchunks]) (by rw [hbinary, hwrite])
  rw [hcheck] at hending
  refine ⟨hending, houtput, Text.decimalLines ns, ?_, Text.lines_decimalLines hns⟩
  rw [subscriptArray, houtput, Text.Utf8.decode_encode]

variable (hshows : (loadedView a).Shows (ns.map .int))
include hshows

theorem slice_wrote (hbinary : args.binary = false) (hcheck : args.check = false)
    (hns : ∀ n ∈ ns, Text.isWritable n = true) {s : Slice} (hs : s.step ≠ some 0) :
    (subscriptArray checks a args text (.slice s)).Wrote (s.pick ns) := by
  obtain ⟨b, hb⟩ := Slice.exists_normalize hs (loadedView a).size
  have hpicked := hshows.slice hb
  rw [Slice.pick_map] at hpicked
  refine subscriptArray_wrote hbinary hcheck ?_ (outcome_elementsOf hpicked)
    fun n hn => hns n (Slice.mem_of_mem_pick hn)
  exact congrArg Traced.outcome (View.get_toValue checks hb)

theorem index_wrote (hbinary : args.binary = false) (hcheck : args.check = false)
    (hns : ∀ n ∈ ns, Text.isWritable n = true) {i : Int} (hlo : -ns.length ≤ i)
    (hhi : i < ns.length) :
    ∃ x, ns[(Slice.fromStart ns.length i).toNat]? = some x ∧
      (subscriptArray checks a args text (.index i)).Wrote [x] := by
  obtain ⟨k, hk, hlt, hi⟩ := Slice.exists_fromStart hlo hhi
  have hx := List.getElem?_eq_getElem hlt
  have hget := hshows.get_int checks (a := .int ns[k]) (by rw [List.getElem?_map, hx]; rfl)
    (by rwa [List.length_map])
  refine ⟨ns[k], by rw [hk, Int.toNat_natCast, hx], ?_⟩
  refine subscriptArray_wrote hbinary hcheck (congrArg Traced.outcome hget) rfl fun n hn => ?_
  rw [List.mem_singleton.1 hn]
  exact hns _ (List.getElem_mem hlt)

theorem index_refused {i : Int} (hi : i < -ns.length ∨ (ns.length : Int) ≤ i) :
    (subscriptArray checks a args text (.index i)).ending = .done 2 ∧
      (subscriptArray checks a args text (.index i)).output = [] := by
  have hget := hshows.get_int_out checks (i := i) (by rwa [List.length_map])
  exact subscriptArray_of_error _ args text (congrArg Traced.outcome hget) rfl

omit hshows in
theorem slice_refused {s : Slice} (hs : s.step = some 0) :
    (subscriptArray checks a args text (.slice s)).ending = .done 2 ∧
      (subscriptArray checks a args text (.slice s)).output = [] := by
  have hget := View.get_toValue_of_error checks (v := loadedView a) (Slice.normalize_of_zero hs _)
  exact subscriptArray_of_error _ args text (congrArg Traced.outcome hget) rfl

end Loaded

/-! ### A file of integers -/

def twoRows (_ : String) : Except Fault (List UInt8) := .ok (Text.Utf8.encode "1 2 3\n4 5 6\n")

theorem load_twoRows :
    StoredFile.load (fun name => (twoRows name).map .ofBytes) "d.txt" (some "int64") =
      .ok ⟨.int 8 true .little, [1, 2, 3, 4, 5, 6].map .int⟩ := by
  have hload : StoredFile.load (fun name => (twoRows name).map .ofBytes) "d.txt" (some "int64") =
      Table.parse (.int 8 true .little) "1 2 3\n4 5 6\n" :=
    StoredFile.load_table rfl (by decide +kernel) (by decide +kernel) (by decide +kernel)
  exact hload.trans rfl

theorem not_startsWith_twoRows : "d.txt".startsWith "-" = false := by decide +kernel

/-! ### The program -/

/-- A command line whose parts name a file, a subscript and possibly a type, for which the file is
loaded, is read as naming these. -/
theorem read_of_load {files : String → Except Fault StoredFile} {name text : String}
    {type : Option (TypeForm × String)} {parts : List Part} {a : TypedArray}
    (hparts : parts.Perm (Part.naming name text type))
    (hname : name.startsWith "-" = false)
    (hload : StoredFile.load files name (type.map (·.2)) = .ok a) :
    Arguments.read (Subscript.quoteNegativeSlices (parts.flatMap Part.words)) =
      .ok { Arguments.empty with
        filename := some name
        subscriptOption := some (Arguments.valueOf text)
        dtype := type.map (·.2)
        settled := true } := by
  have htype : ∀ p, type = some p → ∀ r, p.2.toList ≠ '-' :: r := by
    rintro p rfl
    exact StoredFile.ne_dash_of_load hload
  have hplain : ∀ p ∈ parts, p.Plain := by
    intro p hp
    obtain rfl | rfl | ⟨⟨form, d⟩, hd, rfl⟩ := Part.mem_naming.1 (hparts.mem_iff.1 hp)
    · exact hname
    · trivial
    · have hdash : d.startsWith "-" = false := by
        rw [Bool.eq_false_iff, Ne, startsWith_dash_iff]
        rintro ⟨r, hr⟩
        exact htype _ hd r hr
      cases form with
      | attached => trivial
      | _ => exact hdash
  have hvalue : (type.map fun p => (Arguments.valueOf p.2).getD "") = type.map (·.2) := by
    cases type with
    | none => rfl
    | some p =>
      have hne : p.2 ≠ "--" := fun h => htype p rfl ['-'] (by rw [h]; rfl)
      rw [Option.map_some, Option.map_some, Arguments.valueOf, if_neg hne]
      rfl
  rw [read_parts hparts hplain, hvalue]

/-- **The command line computes slicing.**  The file is one that is loaded as integers `ns`; the
parts of the command line may stand in any order. -/
theorem run_slices {settings : Settings} (hlog : ∃ l, settings.logging = .ok l)
    {contents : String → Except Fault (List UInt8)} {name text : String}
    {type : Option (TypeForm × String)} {parts : List Part}
    (hparts : parts.Perm (Part.naming name text type))
    (hname : name.startsWith "-" = false) {a : TypedArray} {width : Nat} {signed : Bool}
    {order : ByteOrder}
    (hload : StoredFile.load (fun name => (contents name).map .ofBytes) name (type.map (·.2)) = .ok a)
    (htype : a.type = .int width signed order) (hsize : (a.size : Int) ≤ Number.Word.greatest) :
    ∃ ns : List Int, a.elements = ns.map .int ∧
      let r := run settings (fun name => (contents name).map .ofBytes) (parts.flatMap Part.words)
      (∀ s, Subscript.parse text = .ok (.slice s) → s.step ≠ some 0 → r.Wrote (s.pick ns)) ∧
      (∀ i, Subscript.parse text = .ok (.index i) → -ns.length ≤ i → i < ns.length →
        ∃ x, ns[(Slice.fromStart ns.length i).toNat]? = some x ∧ r.Wrote [x]) ∧
      (∀ i, Subscript.parse text = .ok (.index i) → i < -ns.length ∨ (ns.length : Int) ≤ i →
        r.ending = .done 2 ∧ r.output = []) ∧
      (∀ s, Subscript.parse text = .ok (.slice s) → s.step = some 0 →
        r.ending = .done 2 ∧ r.output = []) ∧
      (∀ f, Subscript.parse text = .error f → text ≠ "--" →
        r.ending = .refused (.invalid f.message) ∧ r.ending.status = 2 ∧ r.output = []) ∧
      (text = "--" → r.ending = .failed (.noAttribute "list" "split") ∧ r.output = []) := by
  have ha : a.WellFormed := StoredFile.load_wellFormed hload
  obtain ⟨ns, helements, hns⟩ := ha.exists_ints htype
  have hshows : (loadedView a).Shows (ns.map .int) := by
    have hne : a.type ≠ .object := by
      rw [htype]
      rintro ⟨⟩
    have h := shows_loadedView ha hne hsize
    rwa [TypedArray.toValues, helements, List.map_map] at h
  have hread := read_of_load hparts hname hload
  refine ⟨ns, helements, ?_⟩
  intro r
  by_cases hdash : text = "--"
  · -- The subscript is dropped, and nothing is left to be parsed.
    subst hdash
    have hparse : ∃ f, Subscript.parse "--" = .error f := ⟨_, rfl⟩
    obtain ⟨f, hparse⟩ := hparse
    have hr : r = .fail (.noAttribute "list" "split") [] [] := run_of_nothing hread hlog rfl
    rw [hparse, hr]
    refine ⟨?_, ?_, ?_, ?_, fun _ _ h => absurd rfl h, fun _ => ⟨rfl, rfl⟩⟩ <;> rintro x ⟨⟩
  · rw [Arguments.valueOf, if_neg hdash] at hread
    have hrun : ∀ subscript, Subscript.parse text = .ok subscript →
        r = subscriptArray settings.debugChecks a _ text subscript :=
      fun subscript hparse => Invocation.run_eq ⟨hread, hlog, rfl, hparse, hload⟩ _
    refine ⟨?_, ?_, ?_, ?_, ?_, fun h => absurd h hdash⟩
    · intro s hparse hs
      rw [hrun _ hparse]
      exact slice_wrote hshows rfl rfl hns hs
    · intro i hparse hlo hhi
      rw [hrun _ hparse]
      exact index_wrote hshows rfl rfl hns hlo hhi
    · intro i hparse hi
      rw [hrun _ hparse]
      exact index_refused hshows hi
    · intro s hparse hs
      rw [hrun _ hparse]
      exact slice_refused hs
    · intro f hparse _
      have hr : r = .refuse (.invalid f.message) := run_of_invalid hread hlog rfl hparse
      rw [hr]
      exact ⟨rfl, rfl, rfl⟩

/-- Every other integer, from the last one on. -/
theorem run_slices_of_two_rows :
    let files : String → Except Fault StoredFile := fun name => (twoRows name).map .ofBytes
    let a : TypedArray := ⟨.int 8 true .little, [1, 2, 3, 4, 5, 6].map .int⟩
    (∃ l, Settings.default.logging = .ok l) ∧ "d.txt".startsWith "-" = false ∧
      StoredFile.load files "d.txt" (some "int64") = .ok a ∧
      (a.size : Int) ≤ Number.Word.greatest ∧
      (run .default files ["-d", "int64", "d.txt", "--subscript=::-2"]).Wrote [6, 4, 2] := by
  intro files a
  have hlog : ∃ l, Settings.default.logging = .ok l := ⟨_, rfl⟩
  have hsize : (a.size : Int) ≤ Number.Word.greatest := by decide
  have hparts : List.Perm [.type .behindShort "int64", .file "d.txt", .subscript "::-2"]
      (Part.naming "d.txt" "::-2" (some (.behindShort, "int64"))) :=
    (List.Perm.swap _ _ _).trans (.cons _ (.swap _ _ _))
  obtain ⟨ns, hns, hslice, -⟩ :=
    run_slices hlog hparts not_startsWith_twoRows load_twoRows rfl hsize
  obtain rfl : ns = [1, 2, 3, 4, 5, 6] :=
    (List.map_injective_iff.2 (fun m n => Element.int.inj) hns).symm
  exact ⟨hlog, not_startsWith_twoRows, load_twoRows, hsize,
    hslice ⟨none, none, some (-2)⟩ rfl (by decide)⟩

/-- The text `--` is refused as a subscript.  Given to the program it ends it in another way. -/
theorem run_breaks_off_over_separator :
    let files : String → Except Fault StoredFile := fun name => (twoRows name).map .ofBytes
    let r := run .default files ["d.txt", "--dtype=int64", "--subscript=--"]
    "d.txt".startsWith "-" = false ∧
      (∃ a, StoredFile.load files "d.txt" (some "int64") = .ok a ∧ a.type = .int 8 true .little) ∧
      Subscript.parse "--" = .error (.fieldsNotIntegers "--") ∧
      r.ending = .failed (.noAttribute "list" "split") ∧ r.ending.status ≠ 2 := by
  intro files r
  have hparts : List.Perm [.file "d.txt", .type .attached "int64", .subscript "--"]
      (Part.naming "d.txt" "--" (some (.attached, "int64"))) :=
    .cons _ (.swap _ _ _)
  have hread := read_of_load hparts not_startsWith_twoRows load_twoRows
  have hr : r = .fail (.noAttribute "list" "split") [] [] := run_of_nothing hread ⟨_, rfl⟩ rfl
  refine ⟨not_startsWith_twoRows, ⟨_, load_twoRows, rfl⟩, rfl, ?_, ?_⟩
  · rw [hr]
    rfl
  · rw [hr]
    decide

end Strided.CommandLine
