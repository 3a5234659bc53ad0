import Strided.Proofs.CommandLine.Slicing
import Strided.Proofs.Subscript

/-!
# Spellings of the subscript

A subscript may stand behind the file name by itself, behind one of the names of its option, or
attached to the long one (`Spelling`).  All of them come to the same, with one exception: a text
that reads as an option of its own can only be attached (`run_spellings`).

Which texts these are depends on three readings of what begins with a minus sign: as a negative
number, as a slice that begins with one, and as a subscript.  What is a subscript goes on with a
digit (`exists_digit_of_parse`), which no name of an option does, and so it is a plain argument or
an unknown option (`classify_of_parse`).  A negative slice is attached to the name of the option
before the arguments are read, however it is spelled (`quoteNegativeSlices_words`).
-/

namespace Strided

theorem Text.IsIntegerLiteral.exists_digit_of_minus {s : List Char} {n : Int}
    (h : Text.IsIntegerLiteral ('-' :: s) n) :
    ∃ d rest, s = d :: rest ∧ Text.isDigit d = true := by
  generalize hs : '-' :: s = t at h
  obtain @⟨front, _, _, _, hfront, ⟨hsign, hrun, -⟩, -⟩ := h
  obtain ⟨d, rest, rfl, hd⟩ := hrun.exists_cons
  cases front with
  | cons c front =>
    cases hs
    cases hfront '-' (List.mem_cons_self ..)
  | nil =>
    cases hsign with
    | minus =>
      cases hs
      exact ⟨d, _, rfl, hd⟩
    | plus => cases hs
    | absent =>
      cases hs
      cases hd

namespace Subscript

/-- **A subscript that begins with a minus sign goes on with a digit.** -/
theorem exists_digit_of_parse {text : String} {subscript : Subscript} {s : List Char}
    (h : parse text = .ok subscript) (hs : text.toList = '-' :: s) :
    ∃ d rest, s = d :: rest ∧ Text.isDigit d = true := by
  obtain ⟨fields, values, htext, -, hfields, hsubscript⟩ := parse_eq_ok_iff.1 h
  rw [hs] at htext
  cases hfields with
  | nil => cases hsubscript
  | @cons field x others _ hfield _ =>
    -- The first field begins with the minus sign, so it is not blank.
    obtain ⟨first, behind, rfl, rfl⟩ :
        ∃ first behind, field = '-' :: first ∧ s = first ++ behind := by
      cases field with
      | nil => cases others <;> cases htext
      | cons c first =>
        cases others with
        | nil =>
          rw [List.intercalate_singleton] at htext
          cases htext
          exact ⟨s, [], rfl, (List.append_nil s).symm⟩
        | cons other others =>
          rw [List.intercalate_cons_cons, List.append_assoc] at htext
          cases htext
          exact ⟨_, _, rfl, rfl⟩
    cases hfield with
    | blank hblank => cases hblank '-' (List.mem_cons_self ..)
    | literal hn =>
      obtain ⟨d, rest, rfl, hd⟩ := hn.exists_digit_of_minus
      exact ⟨d, rest ++ behind, rfl, hd⟩

end Subscript

namespace CommandLine

/-! ### Spellings -/

/-- How a subscript is given on a command line. -/
inductive Spelling where
  | positional
  | behindShort
  | behindLong
  | attached
  deriving DecidableEq, Repr

namespace Spelling

def words (text : String) : Spelling → List String
  | positional => [text]
  | behindShort => ["-s", text]
  | behindLong => ["--subscript", text]
  | attached => ["--subscript=" ++ text]

/-- What is asked for with a file name in front. -/
def asked (file text : String) : Spelling → Arguments
  | positional =>
    { Arguments.empty with filename := some file, subscript := some text, settled := true }
  | _ =>
    { Arguments.empty with
      filename := some file, subscriptOption := some (some text), settled := true }

def refusal (text : String) : Spelling → Refusal
  | positional => .leftOver [text]
  | _ => .valueMissing .subscript

end Spelling

/-- The text reads as an option: it begins with a minus sign, and it is no negative number, has no
space in it and is no negative slice. -/
def readsAsOption (text : String) : Bool :=
  text.startsWith "-" && !(isNegativeNumber text.toList || text.toList.contains ' ') &&
    !Subscript.isNegativeSlice text

/-! ### Texts that are subscripts -/

section Subscripts

variable {text : String} {subscript : Subscript}

theorem ofName?_of_digit {s : String} {d : Char} {r : List Char} (hs : s.toList = '-' :: d :: r)
    (hd : Text.isDigit d = true) :
    CommandOption.ofShort? s = none ∧ CommandOption.ofLong? s = none := by
  constructor
  · rw [CommandOption.ofShort?, List.find?_eq_none]
    intro o _ ho
    rw [beq_iff_eq] at ho
    subst ho
    cases o <;> cases hs <;> revert hd <;> decide
  · rw [CommandOption.ofLong?, List.find?_eq_none]
    intro o _ ho
    rw [beq_iff_eq] at ho
    subst ho
    cases o <;> cases hs <;> revert hd <;> decide

/-- The text before an equals sign begins with what the whole begins with. -/
theorem exists_splitValue {c d : Char} {r : List Char} (hc : c ≠ '=') (hd : d ≠ '=') :
    ∃ name value, splitValue (c :: d :: r) = (c :: d :: name, value) := by
  unfold splitValue
  split
  · rw [List.takeWhile_cons_of_pos (by simpa using hc),
      List.takeWhile_cons_of_pos (by simpa using hd)]
    exact ⟨_, _, rfl⟩
  · exact ⟨r, none, rfl⟩

/-- What is a subscript is a plain argument or reads as an option that is unknown. -/
theorem classify_of_parse (h : Subscript.parse text = .ok subscript) :
    classify text =
      .ok (if text.startsWith "-" && !(isNegativeNumber text.toList || text.toList.contains ' ')
        then .unknown text else .argument text) := by
  cases hstart : text.startsWith "-" with
  | false => exact classify_of_not_startsWith hstart
  | true =>
    obtain ⟨s, hs⟩ := startsWith_dash_iff.1 hstart
    obtain ⟨d, r, rfl, hd⟩ := Subscript.exists_digit_of_parse h hs
    have hne {c : Char} (hc : Text.isDigit c = false) : d ≠ c := by
      rintro rfl
      rw [hd] at hc
      cases hc
    have hdash : (text == "-") = false := by
      rw [beq_eq_false_iff_ne]
      rintro rfl
      cases hs
    obtain ⟨name, value, hsplit⟩ :=
      exists_splitValue (c := '-') (d := d) (r := r) (by decide) (hne (by decide))
    obtain ⟨hshort, hlong⟩ := ofName?_of_digit hs hd
    obtain ⟨hshort', hlong'⟩ :=
      ofName?_of_digit (s := String.ofList ('-' :: d :: name)) String.toList_ofList hd
    have hother : classifyOther text =
        .ok (if isNegativeNumber text.toList || text.toList.contains ' ' then .argument text
          else .unknown text) := by
      have hletter := (ofName?_of_digit (s := String.ofList ['-', d]) String.toList_ofList hd).1
      unfold classifyOther
      rw [hs, hsplit]
      dsimp only
      split
      next heq => exact absurd (List.cons.inj (List.cons.inj heq).2).1 (hne (by decide))
      next heq =>
        cases heq
        rw [hletter]
      next hnone => exact absurd rfl (hnone d r)
    rw [classify, hstart, hdash, hshort, hlong, hs, hsplit]
    simp only [hshort', hlong', hother, hs]
    cases value <;>
      cases isNegativeNumber ('-' :: d :: r) || ('-' :: d :: r).contains ' ' <;> rfl

end Subscripts

/-! ### Reading a spelling -/

section Reading

variable {file text : String} (hfile : classify file = .ok (.argument file))
include hfile

theorem quoteNegativeSlices_words (hslice : Subscript.isNegativeSlice file = false)
    (spelling : Spelling) :
    Subscript.quoteNegativeSlices (file :: spelling.words text) =
      file :: (if Subscript.isNegativeSlice text then .attached else spelling).words text := by
  have hname : Subscript.isOptionName file = false := by
    rw [Subscript.isOptionName, Bool.or_eq_false_iff, beq_eq_false_iff_ne, beq_eq_false_iff_ne]
    constructor
    · rintro rfl
      cases hfile.symm.trans (classify_short .subscript)
    · rintro rfl
      cases hfile.symm.trans (classify_long .subscript)
  have hshort : Subscript.isNegativeSlice "-s" = false ∧ Subscript.isOptionName "-s" = true :=
    ⟨rfl, rfl⟩
  have hlong : Subscript.isNegativeSlice "--subscript" = false ∧
      Subscript.isOptionName "--subscript" = true := ⟨isNegativeSlice_of_dashes rfl, rfl⟩
  have hnil : Subscript.quoteNegativeSlices [] = [] := rfl
  cases hneg : Subscript.isNegativeSlice text <;> cases spelling <;>
    simp [Subscript.quoteNegativeSlices_cons, Subscript.quotedArgument_eq, hnil, Spelling.words,
      hslice, hname, hneg, hshort, hlong, Subscript.isNegativeSlice_attached]

omit hfile in
theorem note_subscript (htext : text ≠ "--") :
    ((Part.apply .empty (.file file)).note .subscript text >>= (consume · [])) =
      .ok (Spelling.attached.asked file text) := by
  rw [Arguments.note, Arguments.valueOf, if_neg htext]
  change consume _ [] = _
  rw [consume]
  rfl

theorem read_attached (htext : text ≠ "--") :
    Arguments.read (file :: Spelling.attached.words text) =
      .ok (Spelling.attached.asked file text) := by
  have htokens : tokens (file :: Spelling.attached.words text) =
      .ok [.argument file, .option .subscript false (some text.toList)] :=
    tokens_cons hfile (tokens_cons (classify_attached .subscript text) rfl)
  refine read_of_consume htokens ?_ rfl rfl
  rw [consume_file rfl (ne_separator_of_classify hfile) rfl rfl, consume_attached _ rfl,
    note_subscript htext]

theorem read_spelling (htext : classify text = .ok (.argument text)) (spelling : Spelling) :
    Arguments.read (file :: spelling.words text) = .ok (spelling.asked file text) := by
  have hne := ne_separator_of_classify htext
  -- The value of the option stands behind one of its names.
  have hbehind {name : String} {isShort : Bool}
      (hname : classify name = .ok (.option .subscript isShort none)) :
      Arguments.read (file :: [name, text]) = .ok (Spelling.attached.asked file text) := by
    refine read_of_consume (tokens_cons hfile (tokens_cons hname (tokens_cons htext rfl)))
      ?_ rfl rfl
    rw [consume_file rfl (ne_separator_of_classify hfile) rfl rfl, consume_behind _ rfl,
      note_subscript hne]
  cases spelling with
  | positional =>
    exact read_of_consume (tokens_cons hfile (tokens_cons htext rfl))
      (consume_file_subscript rfl (ne_separator_of_classify hfile) hne) rfl rfl
  | behindShort => exact hbehind (classify_short .subscript)
  | behindLong => exact hbehind (classify_long .subscript)
  | attached => exact read_attached hfile hne

/-- What reads as an unknown option is refused, unless it is attached. -/
theorem read_unknown (htext : classify text = .ok (.unknown text)) {spelling : Spelling}
    (hspelling : spelling ≠ .attached) :
    Arguments.read (file :: spelling.words text) = .error (spelling.refusal text) := by
  have hbehind {name : String} {isShort : Bool}
      (hname : classify name = .ok (.option .subscript isShort none)) :
      Arguments.read (file :: [name, text]) = .error (.valueMissing .subscript) := by
    refine read_of_consume_error (tokens_cons hfile (tokens_cons hname (tokens_cons htext rfl))) ?_
    rw [consume_file rfl (ne_separator_of_classify hfile) rfl rfl, consume]
    · rfl
    · rintro arg rest ⟨⟩
  cases spelling with
  | positional =>
    rw [Spelling.words, Arguments.read, tokens_cons hfile (tokens_cons htext rfl)]
    change (consume .empty _ >>= _) = _
    rw [consume_file rfl (ne_separator_of_classify hfile) rfl rfl, consume, consume]
    rfl
  | behindShort => exact hbehind (classify_short .subscript)
  | behindLong => exact hbehind (classify_long .subscript)
  | attached => exact absurd rfl hspelling

end Reading

/-! ### The program -/

theorem carryOut_asked (room : Nat) (settings : Settings)
    (files : String → Except Fault StoredFile) (file text : String) (spelling : Spelling) :
    carryOut room settings files (spelling.asked file text) =
      carryOut room settings files (Spelling.attached.asked file text) := by
  cases spelling <;> rfl

section Program

variable {settings : Settings} {files : String → Except Fault StoredFile} {file text : String}
  {subscript : Subscript} (hfile : classify file = .ok (.argument file))
  (hslice : Subscript.isNegativeSlice file = false)
  (hparse : Subscript.parse text = .ok subscript)
include hfile hslice hparse

theorem read_quoted_attached :
    Arguments.read (Subscript.quoteNegativeSlices (file :: Spelling.attached.words text)) =
      .ok (Spelling.attached.asked file text) := by
  have hne : text ≠ "--" := by
    rintro rfl
    cases hparse
  rw [quoteNegativeSlices_words hfile hslice, ite_self, read_attached hfile hne]

/-- A subscript that does not read as an option is the same in each spelling. -/
theorem run_of_not_readsAsOption (hreads : readsAsOption text = false) (spelling : Spelling) :
    run settings files (file :: spelling.words text) =
      run settings files (file :: Spelling.attached.words text) := by
  have hquote (spelling : Spelling) :
      Subscript.quoteNegativeSlices (file :: spelling.words text) = _ :=
    quoteNegativeSlices_words hfile hslice spelling
  cases hneg : Subscript.isNegativeSlice text with
  | true =>
    have hsame : Subscript.quoteNegativeSlices (file :: spelling.words text) =
        Subscript.quoteNegativeSlices (file :: Spelling.attached.words text) := by
      rw [hquote, hquote, hneg, if_pos rfl, if_pos rfl]
    simp only [run, runWithin, hsame]
  | false =>
    have hplain : classify text = .ok (.argument text) := by
      rw [readsAsOption, hneg, Bool.not_false, Bool.and_true] at hreads
      rw [classify_of_parse hparse, hreads]
      rfl
    have hread : Arguments.read (Subscript.quoteNegativeSlices (file :: spelling.words text)) =
        .ok (spelling.asked file text) := by
      rw [hquote, hneg, if_neg Bool.false_ne_true, read_spelling hfile hplain]
    simp only [run, runWithin, hread, read_quoted_attached hfile hslice hparse,
      carryOut_asked _ settings files file text spelling]

theorem run_of_readsAsOption (hreads : readsAsOption text = true) {spelling : Spelling}
    (hspelling : spelling ≠ .attached) :
    run settings files (file :: spelling.words text) = .refuse (spelling.refusal text) := by
  rw [readsAsOption, Bool.and_eq_true, Bool.not_eq_true'] at hreads
  obtain ⟨hoption, hneg⟩ := hreads
  have hunknown : classify text = .ok (.unknown text) := by
    rw [classify_of_parse hparse, hoption]
    rfl
  have hread : Arguments.read (Subscript.quoteNegativeSlices (file :: spelling.words text)) =
      .error (spelling.refusal text) := by
    rw [quoteNegativeSlices_words hfile hslice, hneg, if_neg Bool.false_ne_true,
      read_unknown hfile hunknown hspelling]
  simp only [run, runWithin, hread]

/-- **All spellings of a subscript agree**, unless it reads as an option.  The file name is a plain
argument, and the text is a subscript.

* Attached to the name of its option, the subscript is applied to the array that is loaded.
* If the text does not read as an option, then the program does and answers the same in every
  spelling.
* If it does then every other spelling is refused. -/
theorem run_spellings :
    let r (spelling : Spelling) := run settings files (file :: spelling.words text)
    (∀ a, (∃ l, settings.logging = .ok l) → StoredFile.load files file none = .ok a →
      r .attached =
        subscriptArray settings.debugChecks a (Spelling.attached.asked file text) text subscript) ∧
    (readsAsOption text = false → ∀ spelling, r spelling = r .attached) ∧
    (readsAsOption text = true → ∀ spelling, spelling ≠ .attached →
      r spelling = .refuse (spelling.refusal text) ∧ (r spelling).ending.status = 2 ∧
        (r spelling).output = []) := by
  intro r
  refine ⟨fun a hlog hload => ?_, run_of_not_readsAsOption hfile hslice hparse,
    fun hreads spelling hspelling => ?_⟩
  · exact Invocation.run_eq
      ⟨read_quoted_attached hfile hslice hparse, hlog, rfl, hparse, hload⟩ _
  · have hr : r spelling = .refuse (spelling.refusal text) :=
      run_of_readsAsOption hfile hslice hparse hreads hspelling
    rw [hr]
    cases spelling <;> exact ⟨rfl, rfl, rfl⟩

end Program

def sixIntegers : TypedArray := ⟨.int 8 true .little, [1, 2, 3, 4, 5, 6].map .int⟩

theorem load_sixIntegers :
    StoredFile.load (fun _ => .ok (.array sixIntegers)) "d.npy" none = .ok sixIntegers := by
  have hname : "d.npy".endsWith StoredFile.arrayEnding = true := by decide +kernel
  change StoredFile.read "d.npy" none (.array sixIntegers) = _
  rw [StoredFile.read, if_pos hname]
  rfl

theorem classify_arrayName : classify "d.npy" = .ok (.argument "d.npy") := by decide +kernel

theorem sixIntegers_wrote (args : Arguments) (text : String) (hbinary : args.binary = false)
    (hcheck : args.check = false) :
    (subscriptArray true sixIntegers args text (.slice ⟨some (-2), none, none⟩)).Wrote [5, 6] := by
  have hholds : ∀ n ∈ [1, 2, 3, 4, 5, 6], ElementType.holds 8 true n = true := by decide
  have hwell : sixIntegers.WellFormed :=
    ⟨rfl, List.forall_mem_map.2 fun n hn => ⟨n, rfl, hholds n hn⟩⟩
  have hshows : (loadedView sixIntegers).Shows ([1, 2, 3, 4, 5, 6].map .int) :=
    shows_loadedView hwell (by decide) (by decide)
  exact slice_wrote hshows hbinary hcheck (by decide +kernel) (by decide)

/-- The last two of six integers, asked for in two ways.  A slice that begins with a minus sign is
the same in each spelling; one with an underscore behind its first digit has to be attached. -/
theorem run_spellings_of_last_two :
    let r (text : String) (spelling : Spelling) :=
      run .default (fun _ => .ok (.array sixIntegers)) ("d.npy" :: spelling.words text)
    let lastTwo : Subscript := .slice ⟨some (-2), none, none⟩
    (classify "d.npy" = .ok (.argument "d.npy") ∧ Subscript.isNegativeSlice "d.npy" = false) ∧
    (Subscript.parse "-2:" = .ok lastTwo ∧ readsAsOption "-2:" = false ∧
      ∀ spelling, (r "-2:" spelling).Wrote [5, 6]) ∧
    (Subscript.parse "-0_2:" = .ok lastTwo ∧ readsAsOption "-0_2:" = true ∧
      (r "-0_2:" .attached).Wrote [5, 6] ∧
      ∀ spelling, spelling ≠ .attached → (r "-0_2:" spelling).ending.status = 2) := by
  intro r lastTwo
  have hslice : Subscript.isNegativeSlice "d.npy" = false := by rfl
  have hplain : Subscript.parse "-2:" = .ok lastTwo := rfl
  have hunderscore : Subscript.parse "-0_2:" = .ok lastTwo := rfl
  refine ⟨⟨classify_arrayName, hslice⟩, ⟨hplain, by decide +kernel, fun spelling => ?_⟩,
    hunderscore, by decide +kernel, ?_, fun spelling hspelling => ?_⟩
  · have hsame : r "-2:" spelling = r "-2:" .attached :=
      (run_spellings classify_arrayName hslice hplain).2.1 (by decide +kernel) spelling
    have hr : r "-2:" .attached = _ :=
      (run_spellings classify_arrayName hslice hplain).1 _ ⟨_, rfl⟩ load_sixIntegers
    rw [hsame, hr]
    exact sixIntegers_wrote _ _ rfl rfl
  · have hr : r "-0_2:" .attached = _ :=
      (run_spellings classify_arrayName hslice hunderscore).1 _ ⟨_, rfl⟩ load_sixIntegers
    rw [hr]
    exact sixIntegers_wrote _ _ rfl rfl
  · exact ((run_spellings classify_arrayName hslice hunderscore).2.2 (by decide +kernel) spelling
      hspelling).2.1

/-- The same subscript of a file that is loaded ends the program in different ways. -/
theorem spellings_differ :
    let r (argv : List String) := run .default (fun _ => .ok (.array sixIntegers)) argv
    StoredFile.load (fun _ => .ok (.array sixIntegers)) "d.npy" none = .ok sixIntegers ∧
    Subscript.parse "-0_2:" = .ok (.slice ⟨some (-2), none, none⟩) ∧
    (r ["d.npy", "--subscript=-0_2:"]).ending.status = 0 ∧
    (r ["d.npy", "-0_2:"]).ending.status = 2 ∧ (r ["d.npy", "-s", "-0_2:"]).ending.status = 2 ∧
    (r ["d.npy", "--subscript", "-0_2:"]).ending.status = 2 := by
  intro r
  have hslice : Subscript.isNegativeSlice "d.npy" = false := by rfl
  have hparse : Subscript.parse "-0_2:" = .ok (.slice ⟨some (-2), none, none⟩) := rfl
  have hrefused (spelling : Spelling) (h : spelling ≠ .attached) :
      r ("d.npy" :: spelling.words "-0_2:") = .refuse (spelling.refusal "-0_2:") :=
    run_of_readsAsOption classify_arrayName hslice hparse (by decide +kernel) h
  refine ⟨load_sixIntegers, hparse, ?_, ?_, ?_, ?_⟩
  · have hr : r ("d.npy" :: Spelling.attached.words "-0_2:") = subscriptArray true sixIntegers
        (Spelling.attached.asked "d.npy" "-0_2:") "-0_2:" (.slice ⟨some (-2), none, none⟩) :=
      Invocation.run_eq ⟨read_quoted_attached classify_arrayName hslice hparse, ⟨_, rfl⟩, rfl,
        hparse, load_sixIntegers⟩ _
    exact (congrArg (·.ending.status) hr).trans
      (congrArg Ending.status (sixIntegers_wrote _ _ rfl rfl).ending)
  · exact congrArg (·.ending.status) (hrefused .positional (by decide))
  · exact congrArg (·.ending.status) (hrefused .behindShort (by decide))
  · exact congrArg (·.ending.status) (hrefused .behindLong (by decide))

end CommandLine

end Strided
