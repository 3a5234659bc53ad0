import Mathlib.Data.List.FinRange
import Mathlib.Data.List.TakeWhile
import Strided.Subscript

/-!
# Quoting, argument by argument

`quoteNegativeSlices` goes through the arguments once and looks back at what it has put out.  What
becomes of an argument can be said without looking back: `quotedArgument` needs the argument itself
and the one behind it, nothing else.

The loop ends with what the arguments come to one by one (`quoteNegativeSlices_eq`).  What carries
the induction over it (`foldl_quoteNext`) is that only the last thing put out matters, and that this
is a name of the option just if the last argument was one: a slice that has been attached to a name
is neither a name (`isOptionName_attached`) nor a negative slice (`isNegativeSlice_attached`).
-/

namespace Strided.Subscript

/-! ### Negative slices and names -/

/-- The text begins with a minus sign, any number of digits and a colon. -/
def NegativeSlice (s : String) : Prop :=
  ∃ digits rest, s.toList = '-' :: (digits ++ ':' :: rest) ∧ ∀ c ∈ digits, Text.isDigit c = true

theorem isNegativeSlice_iff {s : String} : isNegativeSlice s = true ↔ NegativeSlice s := by
  constructor
  · intro h
    unfold isNegativeSlice at h
    split at h
    · next rest hs =>
      obtain ⟨behind, hbehind⟩ := List.head?_eq_some_iff.1 (beq_iff_eq.1 h)
      refine ⟨rest.takeWhile Text.isDigit, behind, ?_, fun c hc => List.mem_takeWhile_imp hc⟩
      rw [← hbehind, List.takeWhile_append_dropWhile, hs]
    · cases h
  · rintro ⟨digits, rest, hs, hdigits⟩
    have hcolon : ¬ Text.isDigit ':' = true := by decide
    rw [isNegativeSlice, hs]
    simp only [List.dropWhile_append_of_pos hdigits, List.dropWhile_cons_of_neg hcolon,
      List.head?_cons, beq_self_eq_true]

instance : DecidablePred NegativeSlice := fun _ => decidable_of_iff _ isNegativeSlice_iff

theorem isOptionName_iff {s : String} : isOptionName s = true ↔ s = "-s" ∨ s = "--subscript" := by
  rw [isOptionName, Bool.or_eq_true, beq_iff_eq, beq_iff_eq]

theorem toList_attached (arg : String) :
    ("--subscript=" ++ arg).toList = '-' :: '-' :: ("subscript=".toList ++ arg.toList) := by
  rw [String.toList_append]
  rfl

/-- What is attached to a name begins with two minus signs. -/
theorem isNegativeSlice_attached (arg : String) :
    isNegativeSlice ("--subscript=" ++ arg) = false := by
  rw [isNegativeSlice, toList_attached]
  rfl

theorem isOptionName_attached (arg : String) : isOptionName ("--subscript=" ++ arg) = false := by
  have hmem : '=' ∈ ("--subscript=" ++ arg).toList := by
    rw [String.toList_append]
    exact List.mem_append_left _ (by decide)
  rw [Bool.eq_false_iff, Ne, isOptionName_iff]
  rintro (h | h) <;> rw [h] at hmem <;> revert hmem <;> decide

theorem isNegativeSlice_of_isOptionName {arg : String} (h : isOptionName arg = true) :
    isNegativeSlice arg = false := by
  rcases isOptionName_iff.1 h with rfl | rfl <;> rfl

/-! ### One argument -/

/-- What becomes of an argument, by the argument and the one behind it, if there is one. -/
def quotedArgument (arg : String) (next : Option String) : List String :=
  if NegativeSlice arg then ["--subscript=" ++ arg]
  else if (arg = "-s" ∨ arg = "--subscript") ∧ ∃ s ∈ next, NegativeSlice s then []
  else [arg]

/-- What becomes of an argument, by the tests that the loop makes. -/
theorem quotedArgument_eq (arg : String) (next : Option String) :
    quotedArgument arg next =
      if isNegativeSlice arg then ["--subscript=" ++ arg]
      else if isOptionName arg && next.any isNegativeSlice then []
      else [arg] := by
  simp only [quotedArgument, ← isNegativeSlice_iff, ← isOptionName_iff, Bool.and_eq_true,
    Option.any_eq_true, Option.mem_def]

def quotedArguments (argv : List String) : List String :=
  (List.finRange argv.length).flatMap fun i => quotedArgument argv[i] argv[i.val + 1]?

@[simp] theorem quotedArguments_nil : quotedArguments [] = [] := rfl

theorem quotedArguments_cons (arg : String) (rest : List String) :
    quotedArguments (arg :: rest) = quotedArgument arg rest.head? ++ quotedArguments rest := by
  simp only [quotedArguments, List.length_cons, List.finRange_succ, List.flatMap_cons,
    List.flatMap_map]
  cases rest <;> rfl

/-- The loop, from any point on.  The next argument decides about the last thing that has been put
out, and what is put out from there on depends on nothing else. -/
theorem foldl_quoteNext (quoted argv : List String) :
    argv.foldl quoteNext quoted =
      (if quoted.getLast?.any isOptionName && argv.head?.any isNegativeSlice then quoted.dropLast
        else quoted) ++ quotedArguments argv := by
  induction argv generalizing quoted with
  | nil => simp
  | cons arg rest ih =>
    rw [List.foldl_cons, ih, quotedArguments_cons, List.head?_cons, Option.any_some]
    cases hneg : isNegativeSlice arg with
    | true =>
      have hput : quoteNext quoted arg =
          (if quoted.getLast?.any isOptionName then quoted.dropLast else quoted) ++
            ["--subscript=" ++ arg] := if_pos hneg
      have hlast : quotedArgument arg rest.head? = ["--subscript=" ++ arg] := by
        rw [quotedArgument_eq, hneg, if_pos rfl]
      rw [hput, hlast, List.getLast?_concat, Option.any_some, isOptionName_attached, Bool.false_and,
        if_neg Bool.false_ne_true, Bool.and_true, List.append_assoc]
    | false =>
      have hput : quoteNext quoted arg = quoted ++ [arg] := by
        rw [quoteNext, hneg, if_neg Bool.false_ne_true]
      have hlast : quotedArgument arg rest.head? =
          if isOptionName arg && rest.head?.any isNegativeSlice then [] else [arg] := by
        rw [quotedArgument_eq, hneg, if_neg Bool.false_ne_true]
      rw [hput, hlast, List.getLast?_concat, Option.any_some, List.dropLast_concat, Bool.and_false,
        if_neg Bool.false_ne_true]
      split
      · rfl
      · exact List.append_assoc ..

theorem quoteNegativeSlices_eq (argv : List String) :
    quoteNegativeSlices argv = quotedArguments argv := by
  rw [quoteNegativeSlices, foldl_quoteNext]
  rfl

theorem quoteNegativeSlices_cons (arg : String) (rest : List String) :
    quoteNegativeSlices (arg :: rest) =
      quotedArgument arg rest.head? ++ quoteNegativeSlices rest := by
  rw [quoteNegativeSlices_eq, quotedArguments_cons, ← quoteNegativeSlices_eq]

/-! ### All arguments -/

theorem quoteNegativeSlices_of_forall {argv : List String}
    (h : ∀ s ∈ argv, isNegativeSlice s = false) : quoteNegativeSlices argv = argv := by
  induction argv with
  | nil => rfl
  | cons arg rest ih =>
    have hnext : rest.head?.any isNegativeSlice = false := by
      cases rest with
      | nil => rfl
      | cons next _ => exact h next (List.mem_cons_of_mem arg (List.mem_cons_self ..))
    rw [quoteNegativeSlices_cons, quotedArgument_eq, h arg (List.mem_cons_self ..), hnext,
      Bool.and_false, ih fun s hs => h s (List.mem_cons_of_mem arg hs)]
    rfl

theorem isNegativeSlice_of_mem_quoteNegativeSlices {argv : List String} {s : String}
    (h : s ∈ quoteNegativeSlices argv) : isNegativeSlice s = false := by
  rw [quoteNegativeSlices_eq, quotedArguments, List.mem_flatMap] at h
  obtain ⟨i, -, h⟩ := h
  rw [quotedArgument_eq] at h
  split at h
  · rw [List.mem_singleton.1 h]
    exact isNegativeSlice_attached _
  · next hneg =>
    split at h
    · cases h
    · rw [List.mem_singleton.1 h]
      exact Bool.eq_false_iff.2 hneg

/-- Names that stand in a row stay, except for the one right before a negative slice. -/
theorem quoteNegativeSlices_names {names slices : List String}
    (hnames : ∀ s ∈ names, isOptionName s = true) (hslices : ∀ s ∈ slices, isNegativeSlice s = true)
    (hne : slices ≠ []) :
    quoteNegativeSlices (names ++ slices) =
      names.dropLast ++ slices.map ("--subscript=" ++ ·) := by
  induction names with
  | nil =>
    clear hne
    induction slices with
    | nil => rfl
    | cons s rest ih =>
      have hs : quotedArgument s rest.head? = ["--subscript=" ++ s] :=
        if_pos (isNegativeSlice_iff.1 (hslices s (List.mem_cons_self ..)))
      have ih := ih fun t ht => hslices t (List.mem_cons_of_mem s ht)
      rw [List.nil_append] at ih ⊢
      rw [quoteNegativeSlices_cons, hs, ih]
      rfl
  | cons name rest ih =>
    have hname := hnames name (List.mem_cons_self ..)
    have hneg := isNegativeSlice_of_isOptionName hname
    have ih := ih fun t ht => hnames t (List.mem_cons_of_mem name ht)
    rw [List.cons_append, quoteNegativeSlices_cons, ih, quotedArgument_eq, hneg, hname,
      Bool.true_and, if_neg Bool.false_ne_true]
    cases rest with
    | nil =>
      obtain ⟨s, others, rfl⟩ := List.exists_cons_of_ne_nil hne
      have hs := hslices s (List.mem_cons_self ..)
      rw [List.nil_append, List.head?_cons, Option.any_some, hs, if_pos rfl]
      rfl
    | cons next others =>
      have hnext := isNegativeSlice_of_isOptionName
        (hnames next (List.mem_cons_of_mem name (List.mem_cons_self ..)))
      rw [List.cons_append, List.head?_cons, Option.any_some, hnext, if_neg Bool.false_ne_true]
      rfl

/-- **Quoting goes argument by argument.**  A negative slice is attached to the name of the option,
a name right before a negative slice is left out, and any other argument stays as it is; the order
is kept.  Afterwards no argument begins like a negative slice, so that quoting once more changes
nothing.  Of several names in a row only the one right before a negative slice is left out, and of
several slices in a row only the first can take one up. -/
theorem quoting_is_local (argv : List String) :
    quoteNegativeSlices argv =
      (List.finRange argv.length).flatMap (fun i => quotedArgument argv[i] argv[i.val + 1]?) ∧
    (∀ s ∈ quoteNegativeSlices argv, ¬ NegativeSlice s) ∧
    quoteNegativeSlices (quoteNegativeSlices argv) = quoteNegativeSlices argv ∧
    ∀ names slices : List String, (∀ s ∈ names, s = "-s" ∨ s = "--subscript") →
      (∀ s ∈ slices, NegativeSlice s) → slices ≠ [] →
      quoteNegativeSlices (names ++ slices) =
        names.dropLast ++ slices.map ("--subscript=" ++ ·) := by
  have hnone : ∀ s ∈ quoteNegativeSlices argv, isNegativeSlice s = false :=
    fun s => isNegativeSlice_of_mem_quoteNegativeSlices
  refine ⟨quoteNegativeSlices_eq argv, ?_, quoteNegativeSlices_of_forall hnone, ?_⟩
  · intro s hs hneg
    rw [← isNegativeSlice_iff, hnone s hs] at hneg
    cases hneg
  · intro names slices hnames hslices hne
    exact quoteNegativeSlices_names (fun s hs => isOptionName_iff.2 (hnames s hs))
      (fun s hs => isNegativeSlice_iff.2 (hslices s hs)) hne

example : quoteNegativeSlices ["f", "-s", "-s", "-3:", "-4:", "-1", "-s"] =
    ["f", "-s", "--subscript=-3:", "--subscript=-4:", "-1", "-s"] := by decide

end Strided.Subscript
