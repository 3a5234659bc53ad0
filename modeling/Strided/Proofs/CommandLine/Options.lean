import Mathlib.Data.List.Perm.Basic
import Strided.CommandLine.Options
import Strided.Proofs.CommandLine.Quoting

/-!
# Reading a command line

A command line that asks for a file, for a subscript by option and possibly for a storage type, in
any order, is read as what it asks for (`read_parts`).  Each of its parts is put into classes of its
own (`tokens_parts`), and going through them notes what the part is for and nothing else
(`consume_parts`), so that the order does not matter.
-/

namespace Strided.CommandLine

/-! ### The parts of a command line -/

/-- How the name of a storage type is given. -/
inductive TypeForm where
  | attached
  | behindLong
  | behindShort
  deriving DecidableEq, Repr

/-- A part of a command line. -/
inductive Part where
  | file (name : String)
  | subscript (text : String)
  | type (form : TypeForm) (name : String)

namespace Part

def words : Part → List String
  | file name => [name]
  | subscript text => ["--subscript=" ++ text]
  | type .attached name => ["--dtype=" ++ name]
  | type .behindLong name => ["--dtype", name]
  | type .behindShort name => ["-d", name]

/-- The classes of these arguments. -/
def tokens : Part → List Token
  | file name => [.argument name]
  | subscript text => [.option .subscript false (some text.toList)]
  | type .attached name => [.option .dtype false (some name.toList)]
  | type .behindLong name => [.option .dtype false none, .argument name]
  | type .behindShort name => [.option .dtype true none, .argument name]

/-- What stands by itself does not look like an option. -/
def Plain : Part → Prop
  | file name | type .behindLong name | type .behindShort name => name.startsWith "-" = false
  | _ => True

def apply (a : Arguments) : Part → Arguments
  | file name => { a with filename := some name, subscript := none, settled := true }
  | subscript text => { a with subscriptOption := some (Arguments.valueOf text) }
  | type _ name => { a with dtype := some ((Arguments.valueOf name).getD "") }

/-- What names a file, a subscript and possibly a type. -/
def naming (name text : String) (type : Option (TypeForm × String)) : List Part :=
  .file name :: .subscript text :: (type.map fun p => Part.type p.1 p.2).toList

theorem mem_naming {name text : String} {type : Option (TypeForm × String)} {p : Part} :
    p ∈ naming name text type ↔
      p = .file name ∨ p = .subscript text ∨ ∃ t, type = some t ∧ p = .type t.1 t.2 := by
  rw [naming, List.mem_cons, List.mem_cons, Option.mem_toList, Option.map_eq_some_iff]
  simp only [eq_comm]

def isFile : Part → Bool
  | file _ => true
  | _ => false

end Part

/-! ### Classes -/

theorem startsWith_dash_iff {s : String} : s.startsWith "-" = true ↔ ∃ r, s.toList = '-' :: r := by
  rw [String.startsWith_string_iff]
  constructor
  · rintro ⟨r, hr⟩
    exact ⟨r, hr.symm⟩
  · rintro ⟨r, hr⟩
    exact ⟨r, hr.symm⟩

theorem classify_of_not_startsWith {s : String} (h : s.startsWith "-" = false) :
    classify s = .ok (.argument s) := by
  rw [classify, h]
  rfl

namespace CommandOption

theorem ofShort?_of_dashes {s : String} {r : List Char} (h : s.toList = '-' :: '-' :: r) :
    ofShort? s = none := by
  rw [ofShort?, List.find?_eq_none]
  intro o _ ho
  rw [beq_iff_eq] at ho
  subst ho
  cases o <;> cases h

theorem ofLong?_of_mem {s : String} (h : '=' ∈ s.toList) : ofLong? s = none := by
  rw [ofLong?, List.find?_eq_none]
  intro o _ ho
  rw [beq_iff_eq] at ho
  subst ho
  revert h
  cases o <;> decide

end CommandOption

theorem splitValue_append {name : List Char} (h : '=' ∉ name) (text : List Char) :
    splitValue (name ++ '=' :: text) = (name, some text) := by
  have hname : ∀ c ∈ name, (c != '=') = true := by
    intro c hc
    rw [bne_iff_ne]
    rintro rfl
    exact h hc
  rw [splitValue, List.dropWhile_append_of_pos hname, List.takeWhile_append_of_pos hname]
  simp

theorem classify_attached (o : CommandOption) (text : String) :
    classify (o.long ++ "=" ++ text) = .ok (.option o false (some text.toList)) := by
  have hlist : (o.long ++ "=" ++ text).toList = o.long.toList ++ '=' :: text.toList := by
    rw [String.toList_append, String.toList_append, List.append_assoc]
    rfl
  obtain ⟨r, hr⟩ : ∃ r, o.long.toList = '-' :: '-' :: r := by
    cases o <;> exact ⟨_, rfl⟩
  have hdashes : (o.long ++ "=" ++ text).toList = '-' :: '-' :: (r ++ '=' :: text.toList) := by
    rw [hlist, hr]
    rfl
  have hstart : (o.long ++ "=" ++ text).startsWith "-" = true :=
    startsWith_dash_iff.2 ⟨_, hdashes⟩
  have hne : (o.long ++ "=" ++ text == "-") = false := by
    rw [beq_eq_false_iff_ne]
    intro h
    rw [h] at hdashes
    cases hdashes
  have hequals : '=' ∉ o.long.toList := by cases o <;> decide
  have hlong : CommandOption.ofLong? o.long = some o := by cases o <;> rfl
  rw [classify, hstart, hne, CommandOption.ofShort?_of_dashes hdashes,
    CommandOption.ofLong?_of_mem (by rw [hlist]; simp), hlist, splitValue_append hequals]
  simp only [Bool.not_true, Bool.or_false, Bool.false_eq_true, if_false, String.ofList_toList,
    CommandOption.ofShort?_of_dashes hr, hlong]

theorem classify_long (o : CommandOption) : classify o.long = .ok (.option o false none) := by
  have hstart : o.long.startsWith "-" = true :=
    startsWith_dash_iff.2 (by cases o <;> exact ⟨_, rfl⟩)
  rw [classify, hstart]
  cases o <;> rfl

theorem classify_short (o : CommandOption) : classify o.short = .ok (.option o true none) := by
  have hstart : o.short.startsWith "-" = true :=
    startsWith_dash_iff.2 (by cases o <;> exact ⟨_, rfl⟩)
  rw [classify, hstart]
  cases o <;> rfl

/-- The separator could be the beginning of any option. -/
theorem ne_separator_of_classify {arg : String} {t : Token} (h : classify arg = .ok t) :
    arg ≠ "--" := by
  rintro rfl
  rw [classify, startsWith_dash_iff.2 ⟨_, rfl⟩] at h
  cases h

theorem tokens_cons {arg : String} {t : Token} (h : classify arg = .ok t) {rest : List String}
    {ts : List Token} (hrest : tokens rest = .ok ts) : tokens (arg :: rest) = .ok (t :: ts) := by
  rw [tokens, h, hrest]
  · rfl
  · exact ne_separator_of_classify h

theorem tokens_parts {parts : List Part} (h : ∀ p ∈ parts, p.Plain) :
    tokens (parts.flatMap Part.words) = .ok (parts.flatMap Part.tokens) := by
  induction parts with
  | nil => rfl
  | cons p rest ih =>
    have hp := h p (List.mem_cons_self ..)
    have ih := ih fun q hq => h q (List.mem_cons_of_mem p hq)
    rw [List.flatMap_cons, List.flatMap_cons]
    cases p with
    | file name => exact tokens_cons (classify_of_not_startsWith hp) ih
    | subscript text => exact tokens_cons (classify_attached .subscript text) ih
    | type form name =>
      cases form with
      | attached => exact tokens_cons (classify_attached .dtype name) ih
      | behindLong =>
        exact tokens_cons (classify_long .dtype) (tokens_cons (classify_of_not_startsWith hp) ih)
      | behindShort =>
        exact tokens_cons (classify_short .dtype) (tokens_cons (classify_of_not_startsWith hp) ih)

/-! ### Going through the classes -/

theorem consume_attached (a : Arguments) {o : CommandOption} (ho : o.takesValue = true)
    (isShort : Bool) (text : String) (rest : List Token) :
    consume a (.option o isShort (some text.toList) :: rest) =
      a.note o text >>= (consume · rest) := by
  have hjoined : joined o isShort text.toList = .ok ⟨[(o, text)], none⟩ := by
    rw [joined.eq_def, if_pos ho, String.ofList_toList]
  rw [consume, hjoined]
  simp only [Arguments.noteAll]
  cases a.note o text <;> rfl

theorem consume_behind (a : Arguments) {o : CommandOption} (ho : o.takesValue = true)
    (isShort : Bool) (value : String) (rest : List Token) :
    consume a (.option o isShort none :: .argument value :: rest) =
      a.note o value >>= (consume · rest) := by
  rw [consume]
  simp only [ho, if_true]
  cases a.note o value <;> rfl

/-- What begins with an option has nothing that could be a positional argument. -/
theorem groupSize_parts {parts : List Part} (h : ∀ p ∈ parts, p.isFile = false) :
    groupSize (parts.flatMap Part.tokens) = 0 ∧ separators (parts.flatMap Part.tokens) = 0 := by
  cases parts with
  | nil => exact ⟨rfl, rfl⟩
  | cons p rest =>
    have hp := h p (List.mem_cons_self ..)
    cases p with
    | file name => cases hp
    | subscript text => exact ⟨rfl, rfl⟩
    | type form name => cases form <;> exact ⟨rfl, rfl⟩

theorem groupValue_argument {arg : String} (h : arg ≠ "--") :
    groupValue [.argument arg] = some arg := by
  change ([arg].erase "--").head? = some arg
  rw [List.erase_of_not_mem (by simpa using h.symm)]
  rfl

theorem consume_file {a : Arguments} (ha : a.settled = false) {name : String}
    (hname : name ≠ "--") {ts : List Token} (hgroup : groupSize ts = 0) (hsep : separators ts = 0) :
    consume a (.argument name :: ts) = consume (Part.apply a (.file name)) ts := by
  have hfirst : groupSize (.argument name :: ts) = 1 := by
    change 0 + 1 + separators ts = 1
    rw [hsep]
  have htake : takePositional a (.argument name :: ts) = (Part.apply a (.file name), 1) := by
    simp only [takePositional, hfirst, ha, Bool.false_or, List.drop_one, List.tail_cons, hgroup,
      hsep, List.take_succ_cons, List.take_zero, groupValue_argument hname]
    rfl
  rw [consume, htake]
  rfl

theorem consume_file_subscript {a : Arguments} (ha : a.settled = false) {name text : String}
    (hname : name ≠ "--") (htext : text ≠ "--") :
    consume a [.argument name, .argument text] =
      .ok { a with filename := some name, subscript := some text, settled := true } := by
  have htake : takePositional a [.argument name, .argument text] =
      ({ a with filename := some name, subscript := some text, settled := true }, 2) := by
    have hfirst : groupSize [.argument name, .argument text] = 1 := rfl
    have hsecond : groupSize [.argument text] = 1 := rfl
    simp only [takePositional, hfirst, ha, Bool.false_or, List.drop_one, List.tail_cons, hsecond,
      List.take_succ_cons, List.take_zero, groupValue_argument hname, groupValue_argument htext]
    rfl
  rw [consume, htake]
  simp only [List.drop_one, List.tail_cons]
  rw [consume]

/-- **Each part is noted**, if there is at most one file and none has been taken yet. -/
theorem consume_parts {parts : List Part} (hplain : ∀ p ∈ parts, p.Plain) {a : Arguments}
    (hfiles : (parts.filter Part.isFile).length ≤ if a.settled then 0 else 1) :
    consume a (parts.flatMap Part.tokens) = .ok (parts.foldl Part.apply a) := by
  induction parts generalizing a with
  | nil => rw [List.flatMap_nil, consume, List.foldl_nil]
  | cons p rest ih =>
    have hp := hplain p (List.mem_cons_self ..)
    have ih {b : Arguments} := ih (a := b) fun q hq => hplain q (List.mem_cons_of_mem p hq)
    rw [List.flatMap_cons, List.foldl_cons]
    cases p with
    | file name =>
      rw [List.filter_cons_of_pos rfl, List.length_cons] at hfiles
      split at hfiles
      · omega
      · next ha =>
        have hnone : (rest.filter Part.isFile).length = 0 := by omega
        have hrest : ∀ q ∈ rest, q.isFile = false := by
          simpa [List.filter_eq_nil_iff] using hnone
        obtain ⟨hgroup, hsep⟩ := groupSize_parts hrest
        have hname : name ≠ "--" := ne_separator_of_classify (classify_of_not_startsWith hp)
        have hconsume := consume_file (by simpa using ha) hname hgroup hsep
        exact hconsume.trans (ih (by rw [hnone]; exact Nat.zero_le _))
    | subscript text =>
      rw [List.filter_cons_of_neg Bool.false_ne_true] at hfiles
      exact (consume_attached a rfl false text _).trans (ih hfiles)
    | type form name =>
      rw [List.filter_cons_of_neg Bool.false_ne_true] at hfiles
      cases form with
      | attached => exact (consume_attached a rfl false name _).trans (ih hfiles)
      | behindLong => exact (consume_behind a rfl false name _).trans (ih hfiles)
      | behindShort => exact (consume_behind a rfl true name _).trans (ih hfiles)

/-! ### What is read -/

section Read

variable {argv : List String} {ts : List Token} (hts : tokens argv = .ok ts)
include hts

/-- What has been noted is what is read, if there is a file and nothing is left over. -/
theorem read_of_consume {a : Arguments} (ha : consume .empty ts = .ok a)
    (hname : a.filename.isNone = false) (hleft : a.leftOver = []) : Arguments.read argv = .ok a := by
  rw [Arguments.read, hts]
  change (consume .empty ts >>= _) = _
  rw [ha]
  change (if a.filename.isNone = true then _ else _) = _
  rw [hname, if_neg Bool.false_ne_true, if_neg (not_not_intro hleft)]

theorem read_of_consume_error {e : Refusal} (he : consume .empty ts = .error e) :
    Arguments.read argv = .error e := by
  rw [Arguments.read, hts]
  change (consume .empty ts >>= _) = _
  rw [he]
  rfl

end Read

/-! ### Slices that begin with a minus sign -/

theorem isNegativeSlice_of_dashes {s : String} {r : List Char} (h : s.toList = '-' :: '-' :: r) :
    Subscript.isNegativeSlice s = false := by
  rw [Subscript.isNegativeSlice, h]
  rfl

theorem isNegativeSlice_of_not_startsWith {s : String} (h : s.startsWith "-" = false) :
    Subscript.isNegativeSlice s = false := by
  rw [Subscript.isNegativeSlice]
  split
  · next r hr =>
    rw [startsWith_dash_iff.2 ⟨r, hr⟩] at h
    cases h
  · rfl

theorem isNegativeSlice_words {p : Part} (h : p.Plain) :
    ∀ s ∈ p.words, Subscript.isNegativeSlice s = false := by
  have hattached : ∀ (o : CommandOption) (text : String),
      Subscript.isNegativeSlice (o.long ++ "=" ++ text) = false := by
    intro o text
    refine isNegativeSlice_of_dashes (r := o.long.toList.drop 2 ++ '=' :: text.toList) ?_
    rw [String.toList_append, String.toList_append]
    cases o <;> rfl
  cases p with
  | file name => exact List.forall_mem_singleton.2 (isNegativeSlice_of_not_startsWith h)
  | subscript text => exact List.forall_mem_singleton.2 (hattached .subscript text)
  | type form name =>
    cases form with
    | attached => exact List.forall_mem_singleton.2 (hattached .dtype name)
    | behindLong =>
      have hlong : Subscript.isNegativeSlice "--dtype" = false := isNegativeSlice_of_dashes rfl
      simpa [Part.words, hlong] using isNegativeSlice_of_not_startsWith h
    | behindShort =>
      have hshort : Subscript.isNegativeSlice "-d" = false := by rfl
      simpa [Part.words, hshort] using isNegativeSlice_of_not_startsWith h

/-- **A command line that asks for a file, a subscript and possibly a storage type is read as that**,
whatever the order of its parts. -/
theorem read_parts {name text : String} {type : Option (TypeForm × String)} {parts : List Part}
    (hparts : parts.Perm (Part.naming name text type))
    (hplain : ∀ p ∈ parts, p.Plain) :
    Arguments.read (Subscript.quoteNegativeSlices (parts.flatMap Part.words)) =
      .ok { Arguments.empty with
        filename := some name
        subscriptOption := some (Arguments.valueOf text)
        dtype := type.map fun p => (Arguments.valueOf p.2).getD ""
        settled := true } := by
  have hquote : Subscript.quoteNegativeSlices (parts.flatMap Part.words) =
      parts.flatMap Part.words := by
    refine Subscript.quoteNegativeSlices_of_forall fun s hs => ?_
    obtain ⟨p, hp, hs⟩ := List.mem_flatMap.1 hs
    exact isNegativeSlice_words (hplain p hp) s hs
  have hfiles : (parts.filter Part.isFile).length ≤ 1 := by
    rw [(hparts.filter _).length_eq]
    cases type <;> exact Nat.le_refl _
  have hcommute : ∀ p ∈ parts, ∀ q ∈ parts, ∀ a : Arguments,
      Part.apply (Part.apply a p) q = Part.apply (Part.apply a q) p := by
    intro p hp q hq a
    obtain rfl | rfl | ⟨t, ht, rfl⟩ := Part.mem_naming.1 (hparts.mem_iff.1 hp) <;>
      obtain rfl | rfl | ⟨u, hu, rfl⟩ := Part.mem_naming.1 (hparts.mem_iff.1 hq) <;>
        first | rfl | (obtain rfl := Option.some.inj (ht.symm.trans hu); rfl)
  have hconsume := consume_parts hplain (a := .empty) hfiles
  rw [hparts.foldl_eq' hcommute] at hconsume
  rw [hquote]
  cases type <;> exact read_of_consume (tokens_parts hplain) hconsume rfl rfl

end Strided.CommandLine
