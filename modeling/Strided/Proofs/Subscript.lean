import Strided.Proofs.Outcome
import Strided.Proofs.Text.Decimal
import Strided.Proofs.Text.IntegerLiteral
import Strided.Proofs.Text.Words
import Strided.Subscript

/-!
# Subscripts in writing

`Subscript.Reads s subscript` is the grammar of subscripts: the text is put together from fields
with colons between them, a field is blank or an integer literal, and a single field stands for an
index while two or three stand for a slice.  `parse` reads the texts of this grammar and refuses all
others (`parse_eq_ok_iff`), so that what is written in decimal is read back (`parse_grammar`).

The two kinds of field do not get into each other's way, although a field is blank in a wider sense
than the surroundings of a literal are: a literal has a digit in it, and no digit is blank
(`IsBlank.not_isIntegerLiteral`).
-/

namespace Strided.Subscript

/-! ### Fields -/

/-- A field with nothing in it but blanks. -/
def IsBlank (s : List Char) : Prop := ∀ c ∈ s, Text.isBlank c = true

/-- What a field stands for: nothing if it is blank, and an integer if it is a literal. -/
inductive Field : List Char → Option Int → Prop
  | blank {s : List Char} : IsBlank s → Field s none
  | literal {s : List Char} {n : Int} : Text.IsIntegerLiteral s n → Field s (some n)

theorem IsBlank.not_isIntegerLiteral {s : List Char} (h : IsBlank s) (n : Int) :
    ¬Text.IsIntegerLiteral s n := by
  intro hn
  obtain ⟨c, hc, hdigit⟩ := hn.exists_digit
  exact Bool.false_ne_true ((Text.isBlank_of_isDigit hdigit).symm.trans (h c hc))

theorem strip_eq_nil_iff {s : List Char} : Text.strip s = [] ↔ IsBlank s := Text.trim_eq_nil_iff

theorem field_eq_some_iff {s : List Char} {x : Option Int} : field s = some x ↔ Field s x := by
  rw [field]
  constructor
  · intro h
    split at h
    · next hblank =>
      cases h
      exact .blank (strip_eq_nil_iff.1 hblank)
    · obtain ⟨n, hn, rfl⟩ := Option.map_eq_some_iff.1 h
      exact .literal (Text.integer?_eq_some_iff.1 hn)
  · intro h
    cases h with
    | blank hblank => exact if_pos (strip_eq_nil_iff.2 hblank)
    | @literal n hn =>
      have hstrip : Text.strip s ≠ [] := fun hnil =>
        (strip_eq_nil_iff.1 hnil).not_isIntegerLiteral n hn
      rw [if_neg hstrip, Text.integer?_eq_some_iff.2 hn, Option.map_some]

theorem exists_field_iff {s : List Char} :
    (∃ x, Field s x) ↔ IsBlank s ∨ ∃ n, Text.IsIntegerLiteral s n := by
  constructor
  · rintro ⟨x, hx⟩
    cases hx with
    | blank hblank => exact .inl hblank
    | literal hn => exact .inr ⟨_, hn⟩
  · rintro (hblank | ⟨n, hn⟩)
    · exact ⟨none, .blank hblank⟩
    · exact ⟨some n, .literal hn⟩

/-! ### Subscripts -/

/-- What a single field stands for, or two or three of them. -/
inductive OfFields : List (Option Int) → Subscript → Prop
  | index {n : Int} : OfFields [some n] (.index n)
  | bounds {start stop : Option Int} : OfFields [start, stop] (.slice ⟨start, stop, none⟩)
  | stride {start stop step : Option Int} :
      OfFields [start, stop, step] (.slice ⟨start, stop, step⟩)

/-- **The grammar of subscripts.**  The text is put together from fields with colons between them,
and the subscript is what the fields stand for. -/
def Reads (s : String) (subscript : Subscript) : Prop :=
  ∃ fields values, s.toList = [':'].intercalate fields ∧ (∀ field ∈ fields, ':' ∉ field) ∧
    List.Forall₂ Field fields values ∧ OfFields values subscript

/-- **Reading a subscript follows the grammar.** -/
theorem parse_eq_ok_iff {s : String} {subscript : Subscript} :
    parse s = .ok subscript ↔ Reads s subscript := by
  constructor
  · intro h
    obtain ⟨-, hs, hmark⟩ := Text.splitAt_eq_iff.1 (rfl : Text.splitAt ':' s.toList = _)
    have hread {values : List (Option Int)}
        (hvalues : (Text.splitAt ':' s.toList).mapM field = some values)
        (hsubscript : OfFields values subscript) : Reads s subscript :=
      ⟨_, values, hs, hmark,
        (mapM_eq_some_iff.1 hvalues).imp fun _ _ => field_eq_some_iff.1, hsubscript⟩
    unfold parse at h
    dsimp only at h
    split at h
    · cases h
    · split at h
      · cases h
      · cases h
      · next n hvalues =>
        cases h
        exact hread hvalues .index
      · next start stop hvalues =>
        cases h
        exact hread hvalues .bounds
      · next start stop step hvalues =>
        cases h
        exact hread hvalues .stride
      · cases h
  · rintro ⟨fields, values, hs, hmark, hfields, hsubscript⟩
    have hlength : fields.length = values.length := hfields.length_eq
    have hrange : 1 ≤ values.length ∧ values.length ≤ 3 := by
      cases hsubscript <;> simp
    have hsplit : Text.splitAt ':' s.toList = fields :=
      Text.splitAt_eq_iff.2 ⟨List.ne_nil_of_length_pos (by omega), hs, hmark⟩
    have hvalues : fields.mapM field = some values :=
      mapM_eq_some_iff.2 (hfields.imp fun _ _ => field_eq_some_iff.2)
    unfold parse
    dsimp only
    rw [hsplit, hvalues, if_neg (by omega)]
    cases hsubscript with
    | index => rfl
    | @bounds start stop => cases start <;> rfl
    | @stride start stop step => cases start <;> rfl

theorem kind_of_parse {s : String} {f : Fault} (h : parse s = .error f) :
    f.kind = .invalidSubscript := by
  unfold parse at h
  dsimp only at h
  split at h
  · cases h
    rfl
  · split at h <;> cases h <;> rfl

/-- The texts that are read: one, two or three fields, each blank or a literal, but not a single
blank one. -/
theorem exists_reads_iff {s : String} :
    (∃ subscript, Reads s subscript) ↔
      ∃ fields, s.toList = [':'].intercalate fields ∧ (∀ field ∈ fields, ':' ∉ field) ∧
        (1 ≤ fields.length ∧ fields.length ≤ 3) ∧
        (∀ field ∈ fields, IsBlank field ∨ ∃ n, Text.IsIntegerLiteral field n) ∧
        ∀ field, fields = [field] → ¬IsBlank field := by
  constructor
  · rintro ⟨subscript, fields, values, hs, hmark, hfields, hsubscript⟩
    refine ⟨fields, hs, hmark, ?_, ?_, ?_⟩
    · rw [hfields.length_eq]
      cases hsubscript <;> simp
    · intro field hfield
      obtain ⟨x, -, hx⟩ := exists_of_mem_left hfields hfield
      exact exists_field_iff.1 ⟨x, hx⟩
    · rintro field rfl hblank
      cases hsubscript with
      | index =>
        cases hfields with
        | cons hfield _ =>
          cases hfield with
          | literal hn => exact hblank.not_isIntegerLiteral _ hn
      | bounds => cases hfields.length_eq
      | stride => cases hfields.length_eq
  · rintro ⟨fields, hs, hmark, hlength, hfields, hsingle⟩
    have hvalue (field : List Char) (hfield : field ∈ fields) : ∃ x, Field field x :=
      exists_field_iff.2 (hfields field hfield)
    match fields with
    | [] => exact absurd hlength.1 (by decide)
    | [a] =>
      obtain ⟨n, hn⟩ := (hfields a (by simp)).resolve_left (hsingle a rfl)
      exact ⟨_, _, _, hs, hmark, .cons (.literal hn) .nil, .index⟩
    | [a, b] =>
      obtain ⟨x, hx⟩ := hvalue a (by simp)
      obtain ⟨y, hy⟩ := hvalue b (by simp)
      exact ⟨_, _, _, hs, hmark, .cons hx (.cons hy .nil), .bounds⟩
    | [a, b, c] =>
      obtain ⟨x, hx⟩ := hvalue a (by simp)
      obtain ⟨y, hy⟩ := hvalue b (by simp)
      obtain ⟨z, hz⟩ := hvalue c (by simp)
      exact ⟨_, _, _, hs, hmark, .cons hx (.cons hy (.cons hz .nil)), .stride⟩
    | _ :: _ :: _ :: _ :: _ => exact absurd hlength.2 (by simp)

/-! ### Subscripts in decimal -/

/-- A field in writing: an integer in decimal, or nothing. -/
def fieldText : Option Int → String
  | some n => toString n
  | none => ""

theorem field_fieldText {x : Option Int} (h : ∀ n ∈ x, Text.isWritable n = true) :
    Field (fieldText x).toList x := by
  cases x with
  | none => exact .blank (List.forall_mem_nil _)
  | some n => exact .literal (Text.isIntegerLiteral_toString (h n rfl))

theorem colon_not_mem_fieldText (x : Option Int) : ':' ∉ (fieldText x).toList := by
  intro h
  cases x with
  | none => cases h
  | some n =>
    rcases Text.mem_toString h with h | h
    · exact absurd h (by decide)
    · exact absurd h (by decide)

theorem reads_intercalate {s : String} {subscript : Subscript} (values : List (Option Int))
    (hs : s.toList = [':'].intercalate (values.map fun x => (fieldText x).toList))
    (h : ∀ x ∈ values, ∀ n ∈ x, Text.isWritable n = true) (hsubscript : OfFields values subscript) :
    Reads s subscript := by
  refine ⟨_, values, hs, ?_, ?_, hsubscript⟩
  · exact List.forall_mem_map.2 fun x _ => colon_not_mem_fieldText x
  · exact List.forall₂_map_left_iff.2 (List.forall₂_same.2 fun x hx => field_fieldText (h x hx))

/-- **Subscripts are read by their grammar, and what is written is read back.**

* A text is read just if it is put together from one, two or three fields with colons between them,
  each blank or an integer literal, and is not a single blank field.
* Every other text is refused as no subscript.
* A single field is read as the index that it stands for, two or three fields as a slice, where a
  field that is blank or missing stands for nothing.
* An integer in decimal is read back as an index, and two or three of them, any of which may be left
  out, as a slice. -/
theorem parse_grammar :
    (∀ s, (∃ subscript, parse s = .ok subscript) ↔
      ∃ fields, s.toList = [':'].intercalate fields ∧ (∀ field ∈ fields, ':' ∉ field) ∧
        (1 ≤ fields.length ∧ fields.length ≤ 3) ∧
        (∀ field ∈ fields, IsBlank field ∨ ∃ n, Text.IsIntegerLiteral field n) ∧
        ∀ field, fields = [field] → ¬IsBlank field) ∧
    (∀ s, (∃ subscript, parse s = .ok subscript) ∨
      ∃ f, parse s = .error f ∧ f.kind = .invalidSubscript) ∧
    (∀ s subscript, parse s = .ok subscript ↔ Reads s subscript) ∧
    (∀ n, Text.isWritable n = true → parse (toString n) = .ok (.index n)) ∧
    ∀ start stop step : Option Int, (∀ x ∈ [start, stop, step], ∀ n ∈ x, Text.isWritable n = true) →
      parse (fieldText start ++ ":" ++ fieldText stop) = .ok (.slice ⟨start, stop, none⟩) ∧
      parse (fieldText start ++ ":" ++ fieldText stop ++ ":" ++ fieldText step) =
        .ok (.slice ⟨start, stop, step⟩) := by
  refine ⟨fun s => ?_, fun s => ?_, fun s subscript => parse_eq_ok_iff, fun n hn => ?_,
    fun start stop step h => ⟨?_, ?_⟩⟩
  · rw [← exists_reads_iff]
    exact exists_congr fun subscript => parse_eq_ok_iff
  · cases hs : parse s with
    | ok subscript => exact .inl ⟨subscript, rfl⟩
    | error f => exact .inr ⟨f, rfl, kind_of_parse hs⟩
  · refine parse_eq_ok_iff.2 (reads_intercalate [some n] ?_ ?_ .index)
    · simp [fieldText]
    · simpa using hn
  · refine parse_eq_ok_iff.2 (reads_intercalate [start, stop] ?_ ?_ .bounds)
    · simp
    · exact fun x hx => h x (List.mem_append_left [step] hx)
  · refine parse_eq_ok_iff.2 (reads_intercalate [start, stop, step] ?_ h .stride)
    simp

example : parse " +1_0 :\t: -2 " = .ok (.slice ⟨some 10, none, some (-2)⟩) := by decide

end Strided.Subscript
