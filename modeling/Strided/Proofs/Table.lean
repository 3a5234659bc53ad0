import Strided.Proofs.Element
import Strided.Proofs.Text.Decimal
import Strided.Proofs.Text.Words

/-!
# Tables in writing

A table of integers is written a row a line, with commas or with blanks between the entries of a
row.  Behind the last entry there may be a comment, and lines that are empty or nothing but a
comment may stand anywhere.  `Line` is a line of this kind, and `document` is the text of several.

None of this changes what is read (`parse_document`, `StoredFile.load_document`).  The separator is
guessed, and the guess can only be wrong if no line has more than one entry (`hasCommas_document`);
then it does not matter (`fields_written`).
-/

namespace Strided.Table

/-! ### Lines -/

/-- What stands between two lines. -/
inductive LineEnd where
  | lineFeed
  | carriageReturn
  | both
  deriving DecidableEq, Repr

def LineEnd.written : LineEnd → List Char
  | lineFeed => ['\n']
  | carriageReturn => ['\r']
  | both => ['\r', '\n']

theorem lines_cons {c : Char} (hc : Text.isLineEnd c = false) {rest line : List Char}
    {others : List (List Char)} (h : lines rest = line :: others) :
    lines (c :: rest) = (c :: line) :: others := by
  have hends : ¬(c = '\n' ∨ c = '\r') := by
    rw [Text.isLineEnd, Bool.or_eq_false_iff, beq_eq_false_iff_ne, beq_eq_false_iff_ne] at hc
    exact not_or.2 hc
  rw [lines, if_neg hends, h]
  rintro tail rfl -
  exact hends (.inr rfl)

theorem lines_of_forall {line : List Char} (h : ∀ c ∈ line, Text.isLineEnd c = false) :
    lines line = [line] := by
  induction line with
  | nil => rfl
  | cons c rest ih =>
    exact lines_cons (h c (List.mem_cons_self ..)) (ih fun d hd => h d (List.mem_cons_of_mem c hd))

theorem lines_lineEnd_append (lineEnd : LineEnd) {rest : List Char}
    (hrest : lineEnd = .carriageReturn → rest.head? ≠ some '\n') :
    lines (lineEnd.written ++ rest) = [] :: lines rest := by
  cases lineEnd with
  | lineFeed => rfl
  | both => rfl
  | carriageReturn =>
    change lines ('\r' :: rest) = _
    rw [lines, if_pos (.inr rfl)]
    rintro tail - rfl
    exact hrest rfl rfl

theorem lines_append {line : List Char} (h : ∀ c ∈ line, Text.isLineEnd c = false)
    (lineEnd : LineEnd) {rest : List Char}
    (hrest : lineEnd = .carriageReturn → rest.head? ≠ some '\n') :
    lines (line ++ lineEnd.written ++ rest) = line :: lines rest := by
  induction line with
  | nil => exact lines_lineEnd_append lineEnd hrest
  | cons c line ih =>
    exact lines_cons (h c (List.mem_cons_self ..)) (ih fun d hd => h d (List.mem_cons_of_mem c hd))

/-- **Lines are read back**, whatever stands between them. -/
theorem lines_intercalate (lineEnd : LineEnd) {ls : List (List Char)} (hne : ls ≠ [])
    (h : ∀ line ∈ ls, ∀ c ∈ line, Text.isLineEnd c = false) :
    lines (lineEnd.written.intercalate ls) = ls := by
  induction ls with
  | nil => exact absurd rfl hne
  | cons line rest ih =>
    have hline := h line (List.mem_cons_self ..)
    have hrest : ∀ l ∈ rest, ∀ c ∈ l, Text.isLineEnd c = false := fun l hl =>
      h l (List.mem_cons_of_mem line hl)
    cases rest with
    | nil => rw [List.intercalate_singleton, lines_of_forall hline]
    | cons next others =>
      rw [List.intercalate_cons_cons, lines_append hline, ih (List.cons_ne_nil next others) hrest]
      -- What follows a carriage return is a character of the next line or another one.
      rintro rfl hhead
      cases next with
      | nil => cases others <;> cases hhead
      | cons c next =>
        have hc := hrest _ (List.mem_cons_self ..) c (List.mem_cons_self ..)
        cases others <;> cases hhead <;> cases hc

/-! ### Lines of a table -/

/-- What is written in a single line behind the sign of a comment. -/
structure Comment where
  text : String
  isSingleLine : text.toList.any Text.isLineEnd = false

/-- A line of a table: a row, perhaps with a comment behind it, a comment by itself, or nothing. -/
inductive Line where
  | row (entries : List Int) (comment : Option Comment)
  | remark (comment : Comment)
  | empty

def separator (commas : Bool) : Char := if commas then ',' else ' '

def decimal (n : Int) : List Char := (toString n).toList

def entriesText (commas : Bool) (entries : List Int) : List Char :=
  [separator commas].intercalate (entries.map decimal)

namespace Line

/-- The row in a line that is not empty or a comment. -/
def row? : Line → Option (List Int)
  | row entries _ => some entries
  | remark _ | empty => none

def entries (line : Line) : List Int := line.row?.getD []

def commentText : Line → List Char
  | row _ (some comment) | remark comment => '#' :: comment.text.toList
  | row _ none | empty => []

def written (commas : Bool) (line : Line) : List Char :=
  entriesText commas line.entries ++ line.commentText

end Line

def document (commas : Bool) (lineEnd : LineEnd) (ls : List Line) : String :=
  String.ofList (lineEnd.written.intercalate (ls.map (Line.written commas)))

/-! ### Entries -/

theorem decimal_ne_nil (n : Int) : decimal n ≠ [] := by
  obtain ⟨sign, negative, -, htext, -⟩ := Text.toString_eq n
  rw [decimal, htext]
  exact List.append_ne_nil_of_right_ne_nil sign (Text.repr_ne_nil _)

theorem mem_entriesText {commas : Bool} {entries : List Int} {c : Char}
    (h : c ∈ entriesText commas entries) :
    c = separator commas ∨ c = '-' ∨ c.isDigit = true := by
  refine (Text.mem_intercalate h).imp_right ?_
  rintro ⟨part, hpart, hc⟩
  obtain ⟨n, -, rfl⟩ := List.mem_map.1 hpart
  exact Text.mem_toString hc

/-- Where there is nothing to be separated, the separator does not matter. -/
theorem entriesText_of_length_le {entries : List Int} (h : entries.length ≤ 1)
    (commas commas' : Bool) : entriesText commas entries = entriesText commas' entries := by
  match entries, h with
  | [], _ => rfl
  | [n], _ => rfl

theorem comma_mem_entriesText {commas : Bool} {entries : List Int} :
    ',' ∈ entriesText commas entries ↔ commas = true ∧ 1 < entries.length := by
  have hblanks : ',' ∉ entriesText false entries := by
    intro h
    rcases mem_entriesText h with h | h | h <;> cases h
  constructor
  · intro h
    cases commas with
    | false => exact absurd h hblanks
    | true =>
      refine ⟨rfl, Nat.lt_of_not_le fun hle => hblanks ?_⟩
      rwa [entriesText_of_length_le hle false true]
  · rintro ⟨rfl, hlt⟩
    match entries, hlt with
    | a :: b :: rest, _ =>
      rw [entriesText, List.map_cons, List.map_cons, List.intercalate_cons_cons]
      exact List.mem_append_left _ (List.mem_append_right _ (List.mem_singleton_self ','))

theorem ne_hash_of_mem_entriesText {commas : Bool} {entries : List Int} :
    ∀ c ∈ entriesText commas entries, (c != '#') = true := by
  intro c hc
  rw [bne_iff_ne]
  rintro rfl
  rcases mem_entriesText hc with h | h | h <;> cases commas <;> cases h

theorem fields_of_body {commas : Bool} {line : List Char} {entries : List Int}
    (h : body line = entriesText commas entries) : fields commas line = entries.map decimal := by
  rw [fields, h]
  cases commas with
  | false =>
    refine Text.words_intercalate (List.forall_mem_map.2 fun n _ => ?_) rfl
    exact ⟨decimal_ne_nil n, fun c => Text.isBlank_of_mem_toString⟩
  | true =>
    rw [if_pos rfl]
    cases entries with
    | nil => rfl
    | cons n rest =>
      have hsplit : Text.splitAt ',' (entriesText true (n :: rest)) = (n :: rest).map decimal := by
        refine Text.splitAt_eq_iff.2 ⟨List.cons_ne_nil _ _, rfl, ?_⟩
        refine List.forall_mem_map.2 fun m _ hm => ?_
        rcases Text.mem_toString hm with h | h <;> cases h
      rw [hsplit]
      split
      next hnil => exact absurd (List.cons.inj hnil).1 (decimal_ne_nil n)
      next => rfl

theorem digits?_repr (m : Nat) : digits? m.repr.toList = some m := by
  have hdigits : m.repr.toList.all Char.isDigit = true :=
    List.all_eq_true.2 fun c => Text.isDigit_of_mem_repr
  have hplain : Number.Numeral.ofDigits m.repr.toList =
      Text.ofDigits (m.repr.toList.map fun c => c.toNat - '0'.toNat) := by
    rw [Text.ofDigits, List.foldl_map]
    rfl
  have hvalue : Number.Numeral.ofDigits m.repr.toList = m := by
    rw [hplain, Text.ofDigits_eq_ofDigitChars, Nat.toList_repr, Nat.ofDigitChars_ten_toDigits]
  rw [digits?, if_pos ⟨Text.repr_ne_nil m, hdigits⟩, hvalue]

/-- A decimal is read as the integer, unless it has a sign where there is none. -/
theorem integer?_decimal {signed : Bool} {n : Int} (h : signed = true ∨ 0 ≤ n) :
    integer? signed (decimal n) = some n := by
  cases n with
  | ofNat m =>
    have hfirst {c : Char} {rest : List Char} (h : m.repr.toList = c :: rest) :
        c.isDigit = true :=
      Text.isDigit_of_mem_repr (h ▸ List.mem_cons_self ..)
    change integer? signed m.repr.toList = _
    unfold integer?
    split
    · next hm => cases hfirst hm
    · next hm => cases hfirst hm
    · rw [digits?_repr]
      rfl
  | negSucc m =>
    obtain rfl : signed = true := h.resolve_right (by simp)
    have hdecimal : decimal (.negSucc m) = '-' :: (m + 1).repr.toList := String.toList_append
    rw [hdecimal, integer?, if_pos rfl, digits?_repr]
    rfl

/-- **A decimal is read as the integer**, under a type that has it. -/
theorem element_decimal {bytes : Nat} {signed : Bool} (order : ByteOrder) {n : Int}
    (h : ElementType.holds bytes signed n = true) :
    element (.int bytes signed order) (decimal n) = .ok (.int n) := by
  have hsign : signed = true ∨ 0 ≤ n := by
    cases signed with
    | true => exact .inl rfl
    | false =>
      rw [ElementType.holds, Bool.and_eq_true, decide_eq_true_eq] at h
      exact .inr h.1
  have hstrip : Text.strip (decimal n) = decimal n :=
    Text.trim_eq_self (.of_forall fun c => Text.isBlank_of_mem_toString)
  have hread : element? (.int bytes signed order) (decimal n) = some (.int n) := by
    rw [element?, boundedInteger?, hstrip, integer?_decimal hsign, Option.filter_some, if_pos h,
      Option.map_some]
  rw [element, hread]

/-! ### Documents -/

namespace Line

variable {commas : Bool}

theorem body_written (line : Line) :
    body (line.written commas) = entriesText commas line.entries := by
  have hcomment : line.commentText.takeWhile (· != '#') = [] := by
    cases line with
    | row entries comment => cases comment <;> rfl
    | remark comment => rfl
    | empty => rfl
  rw [body, written, List.takeWhile_append_of_pos ne_hash_of_mem_entriesText, hcomment,
    List.append_nil]

theorem isSingleLine (line : Line) : ∀ c ∈ line.written commas, Text.isLineEnd c = false := by
  have hcomment (comment : Comment) : ∀ c ∈ '#' :: comment.text.toList, Text.isLineEnd c = false :=
    List.forall_mem_cons.2 ⟨rfl, fun c hc =>
      Bool.eq_false_iff.2 (List.any_eq_false.1 comment.isSingleLine c hc)⟩
  intro c hc
  rcases List.mem_append.1 hc with hc | hc
  · have hdigit (h : c.isDigit = true) : Text.isLineEnd c = false := by
      rw [Text.isLineEnd, Bool.or_eq_false_iff, beq_eq_false_iff_ne, beq_eq_false_iff_ne]
      constructor <;> rintro rfl <;> cases h
    rcases mem_entriesText hc with rfl | rfl | h
    · cases commas <;> rfl
    · rfl
    · exact hdigit h
  · cases line with
    | row entries comment =>
      cases comment with
      | none => cases hc
      | some comment => exact hcomment comment c hc
    | remark comment => exact hcomment comment c hc
    | empty => cases hc

end Line

section Document

variable {commas : Bool} {lineEnd : LineEnd} {ls : List Line}

theorem lines_document (hne : ls ≠ []) :
    lines (document commas lineEnd ls).toList = ls.map (Line.written commas) := by
  rw [document, String.toList_ofList]
  refine lines_intercalate lineEnd (mt List.map_eq_nil_iff.1 hne) ?_
  exact List.forall_mem_map.2 fun line _ => line.isSingleLine

/-- **The separator is guessed right**, unless there is nothing to be separated. -/
theorem hasCommas_document (hne : ls ≠ []) :
    hasCommas (document commas lineEnd ls).toList = commas ∨
      ∀ line ∈ ls, line.entries.length ≤ 1 := by
  have hcommas : hasCommas (document commas lineEnd ls).toList = true ↔
      commas = true ∧ ∃ line ∈ ls, 1 < line.entries.length := by
    simp only [hasCommas, lines_document hne, List.any_map, List.any_eq_true, Function.comp_apply,
      Line.body_written, List.contains_iff_mem, comma_mem_entriesText]
    exact ⟨fun ⟨line, hline, hcommas, hlt⟩ => ⟨hcommas, line, hline, hlt⟩,
      fun ⟨hcommas, line, hline, hlt⟩ => ⟨line, hline, hcommas, hlt⟩⟩
  by_cases hall : ∀ line ∈ ls, line.entries.length ≤ 1
  · exact .inr hall
  · push Not at hall
    left
    rw [Bool.eq_iff_iff, hcommas]
    exact ⟨And.left, fun h => ⟨h, hall⟩⟩

example : (document true .lineFeed [.row [1, -2] none, .empty, .row [3, 4] none]).toList =
    "1,-2\n\n3,4".toList := by decide

/-- The fields of a line are its entries, by the guess. -/
theorem fields_written (hne : ls ≠ []) {line : Line} (hline : line ∈ ls) :
    fields (hasCommas (document commas lineEnd ls).toList) (line.written commas) =
      line.entries.map decimal := by
  refine fields_of_body ?_
  rw [line.body_written]
  rcases hasCommas_document hne with hguess | hall
  · rw [hguess]
  · exact entriesText_of_length_le (hall line hline) _ _

theorem rows_document (hne : ls ≠ []) (hrows : ∀ row ∈ ls.filterMap Line.row?, row ≠ []) :
    rows (document commas lineEnd ls).toList = (ls.filterMap Line.row?).map (List.map decimal) := by
  have hfields : (lines (document commas lineEnd ls).toList).map
      (fields (hasCommas (document commas lineEnd ls).toList)) =
        ls.map fun line => line.entries.map decimal := by
    rw [lines_document hne, List.map_map]
    exact List.map_congr_left fun line => fields_written hne
  rw [rows, hfields]
  clear hfields hne
  induction ls with
  | nil => rfl
  | cons line rest ih =>
    cases hrow : line.row? with
    | none =>
      rw [List.filterMap_cons_none hrow] at hrows ⊢
      rw [List.map_cons, Line.entries, hrow]
      exact ih hrows
    | some row =>
      rw [List.filterMap_cons_some hrow] at hrows ⊢
      obtain ⟨hcons, hrest⟩ := List.forall_mem_cons.1 hrows
      have hkeep : (row.map decimal != []) = true :=
        bne_iff_ne.2 (mt List.map_eq_nil_iff.1 hcons)
      rw [List.map_cons, Line.entries, hrow, List.map_cons, ← ih hrest]
      exact List.filter_cons_of_pos hkeep

end Document

/-! ### Tables -/

/-- A table of integers with at least one row and one column. -/
structure Rectangle where
  rows : List (List Int)
  columns : Nat
  rows_ne_nil : rows ≠ []
  columns_pos : 0 < columns
  length_eq : ∀ row ∈ rows, row.length = columns

namespace Rectangle

def entries (t : Rectangle) : List Int := t.rows.flatten

theorem isEven (t : Rectangle) :
    ((t.rows.map (List.map decimal)).all fun row =>
      some row.length == (t.rows.map (List.map decimal)).head?.map List.length) = true := by
  have hlength : ∀ row ∈ t.rows.map (List.map decimal), row.length = t.columns :=
    List.forall_mem_map.2 fun row hrow => (List.length_map _).trans (t.length_eq row hrow)
  have hhead : (t.rows.map (List.map decimal)).head?.map List.length = some t.columns := by
    cases hrows : t.rows with
    | nil => exact absurd hrows t.rows_ne_nil
    | cons row rest =>
      rw [hrows] at hlength
      exact congrArg some (hlength _ (List.mem_cons_self ..))
  rw [hhead, List.all_eq_true]
  intro row hrow
  rw [hlength row hrow, beq_self_eq_true]

end Rectangle

variable {commas : Bool} {lineEnd : LineEnd} {ls : List Line} {t : Rectangle}

/-- **A table is read as its entries row by row**, however it is written. -/
theorem parse_document (hls : ls.filterMap Line.row? = t.rows) {bytes : Nat} {signed : Bool}
    (order : ByteOrder) (hholds : ∀ n ∈ t.entries, ElementType.holds bytes signed n = true) :
    parse (.int bytes signed order) (document commas lineEnd ls) =
      .ok ⟨.int bytes signed order, t.entries.map .int⟩ := by
  have hne : ls ≠ [] := by
    rintro rfl
    exact t.rows_ne_nil hls.symm
  have hrows : rows (document commas lineEnd ls).toList = t.rows.map (List.map decimal) := by
    rw [rows_document hne, hls]
    rw [hls]
    rintro row hrow rfl
    exact absurd (t.length_eq [] hrow) (Nat.ne_of_lt t.columns_pos)
  have helements : (t.rows.map (List.map decimal)).flatten.mapM
      (element (.int bytes signed order)) = .ok (t.entries.map .int) := by
    rw [← List.map_flatten, ← Rectangle.entries, mapM_eq_ok_iff, List.forall₂_map_left_iff,
      List.forall₂_map_right_iff, List.forall₂_same]
    exact fun n hn => element_decimal order (hholds n hn)
  unfold parse
  dsimp only
  rw [hrows, if_pos t.isEven]
  change (List.mapM (element (.int bytes signed order)) _ >>= _) = _
  rw [helements]
  rfl

/-- Lines with comments in and between them: two rows of two. -/
def commentedLines : List Line :=
  [.remark ⟨" a, b 7", rfl⟩, .row [1, 2] (some ⟨"x,3", rfl⟩), .empty, .row [-3, 4] none]

def commentedTable : Rectangle where
  rows := [[1, 2], [-3, 4]]
  columns := 2
  rows_ne_nil := by decide
  columns_pos := by decide
  length_eq := by decide

end Strided.Table

namespace Strided.StoredFile

open Table

/-- **Loading does not depend on how a table is written.**  A file whose name is not that of an
array file or of a compressed one holds a table of integers of eight bytes: a row a line, with
commas or with blanks between the entries, perhaps with comments behind rows, and with comments and
empty lines anywhere.  What is loaded is the entries of the table, row by row. -/
theorem load_document {t : Rectangle} (ht : ∀ n ∈ t.entries, ElementType.holds 8 true n = true)
    {ls : List Line} (hls : ls.filterMap Line.row? = t.rows)
    {contents : String → Except Fault (List UInt8)} {name : String}
    (hname : name.endsWith arrayEnding = false) (hpath : Compression.ofPath? name = none)
    (commas : Bool) (lineEnd : LineEnd)
    (hcontents : contents name = .ok (Text.Utf8.encode (document commas lineEnd ls))) :
    load (fun name => (contents name).map ofBytes) name (some "int64") =
      .ok ⟨.int 8 true .little, t.entries.map .int⟩ := by
  have hload : load (fun name => (contents name).map ofBytes) name (some "int64") =
      parse (.int 8 true .little) (document commas lineEnd ls) :=
    load_table hcontents hname hpath (by decide +kernel)
  rw [hload, parse_document hls .little ht]

/-- A table with comments, with commas and with blanks. -/
theorem load_commentedTable :
    let files (commas : Bool) (lineEnd : LineEnd) : String → Except Fault (List UInt8) := fun _ =>
      .ok (Text.Utf8.encode (document commas lineEnd commentedLines))
    let loaded (commas : Bool) (lineEnd : LineEnd) (name : String) :=
      load (fun name => (files commas lineEnd name).map ofBytes) name (some "int64")
    loaded true .lineFeed "d.csv" = .ok ⟨.int 8 true .little, [1, 2, -3, 4].map .int⟩ ∧
    loaded false .both "d.txt" = .ok ⟨.int 8 true .little, [1, 2, -3, 4].map .int⟩ := by
  intro files loaded
  have hholds : ∀ n ∈ commentedTable.entries, ElementType.holds 8 true n = true := by decide
  have hls : commentedLines.filterMap Line.row? = commentedTable.rows := rfl
  exact ⟨load_document hholds hls (by decide +kernel) (by decide +kernel) true .lineFeed rfl,
    load_document hholds hls (by decide +kernel) (by decide +kernel) false .both rfl⟩

end Strided.StoredFile
