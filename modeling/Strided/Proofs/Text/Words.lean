import Strided.Text.Words

/-!
# Fields and words of a text

Splitting a text at a mark and putting texts together with a mark between them undo each other
(`splitAt_eq_iff`), and so do taking the words of a text and putting words together with a blank
between them (`words_intercalate`).
-/

namespace Strided.Text

/-! ### Fields -/

theorem splitAt_eq_splitOn (mark : Char) (s : List Char) : splitAt mark s = s.splitOn mark := by
  induction s with
  | nil => rw [splitAt, List.splitOn_nil]
  | cons c rest ih =>
    rw [splitAt, List.splitOn_cons_eq_if_modifyHead, ← ih]
    by_cases hc : c = mark
    · rw [if_pos hc, if_pos (beq_iff_eq.2 hc)]
    · rw [if_neg hc, if_neg (by rwa [beq_iff_eq])]
      cases h : splitAt mark rest with
      | nil => exact absurd h (splitAt_ne_nil mark rest)
      | cons field fields => rfl

theorem not_mem_of_mem_splitAt {mark : Char} {s field : List Char} (h : field ∈ splitAt mark s) :
    mark ∉ field := by
  induction s generalizing field with
  | nil =>
    rw [List.mem_singleton.1 h]
    exact List.not_mem_nil
  | cons c rest ih =>
    rw [splitAt] at h
    split at h
    · rcases List.mem_cons.1 h with rfl | h
      · exact List.not_mem_nil
      · exact ih h
    · next hc =>
      split at h
      · next first others hrest =>
        rw [hrest] at ih
        rcases List.mem_cons.1 h with rfl | h
        · have hfirst := ih (List.mem_cons_self ..)
          exact fun hmem => (List.mem_cons.1 hmem).elim (fun he => hc he.symm) hfirst
        · exact ih (List.mem_cons_of_mem first h)
      · next hnil => exact absurd hnil (splitAt_ne_nil mark rest)

/-- A text is split into fields just if it is put together from them and the mark is in none. -/
theorem splitAt_eq_iff {mark : Char} {s : List Char} {fields : List (List Char)} :
    splitAt mark s = fields ↔
      fields ≠ [] ∧ s = [mark].intercalate fields ∧ ∀ field ∈ fields, mark ∉ field := by
  constructor
  · rintro rfl
    refine ⟨splitAt_ne_nil mark s, ?_, fun field => not_mem_of_mem_splitAt⟩
    rw [splitAt_eq_splitOn, List.intercalate_splitOn]
  · rintro ⟨hne, rfl, hfields⟩
    rw [splitAt_eq_splitOn, List.splitOn_intercalate mark hfields hne]

theorem mem_intercalate {α : Type} {mark c : α} {parts : List (List α)}
    (h : c ∈ [mark].intercalate parts) : c = mark ∨ ∃ part ∈ parts, c ∈ part := by
  induction parts with
  | nil => cases h
  | cons part rest ih =>
    cases rest with
    | nil =>
      rw [List.intercalate_singleton] at h
      exact .inr ⟨part, List.mem_cons_self .., h⟩
    | cons other others =>
      rw [List.intercalate_cons_cons, List.append_assoc] at h
      rcases List.mem_append.1 h with h | h
      · exact .inr ⟨part, List.mem_cons_self .., h⟩
      · rcases List.mem_cons.1 h with rfl | h
        · exact .inl rfl
        · refine (ih h).imp_right ?_
          rintro ⟨p, hp, hc⟩
          exact ⟨p, List.mem_cons_of_mem part hp, hc⟩

/-! ### Words -/

section Words

variable {α : Type} {blank : α → Bool}

theorem words_cons_of_blank {b : α} (hb : blank b = true) (s : List α) :
    words blank (b :: s) = words blank s := by
  cases s with
  | nil => exact if_pos hb
  | cons c rest => rw [words, if_pos hb]

theorem words_of_forall {word : List α} (hne : word ≠ []) (h : ∀ c ∈ word, blank c = false) :
    words blank word = [word] := by
  induction word with
  | nil => exact absurd rfl hne
  | cons c rest ih =>
    have hc := h c (List.mem_cons_self ..)
    cases rest with
    | nil => rw [words, hc, if_neg Bool.false_ne_true]
    | cons d others =>
      have hd := h d (List.mem_cons_of_mem c (List.mem_cons_self ..))
      rw [words, hc, hd, if_neg Bool.false_ne_true, if_neg Bool.false_ne_true,
        ih (List.cons_ne_nil d others) fun e he => h e (List.mem_cons_of_mem c he)]

/-- **Words end at a blank.** -/
theorem words_append_cons {word : List α} (hne : word ≠ []) (h : ∀ c ∈ word, blank c = false)
    {b : α} (hb : blank b = true) (s : List α) :
    words blank (word ++ b :: s) = word :: words blank s := by
  induction word with
  | nil => exact absurd rfl hne
  | cons c rest ih =>
    have hc := h c (List.mem_cons_self ..)
    cases rest with
    | nil =>
      rw [List.singleton_append, words, hc, hb, if_neg Bool.false_ne_true, if_pos rfl,
        words_cons_of_blank hb]
    | cons d others =>
      have hd := h d (List.mem_cons_of_mem c (List.mem_cons_self ..))
      have ih := ih (List.cons_ne_nil d others) fun e he => h e (List.mem_cons_of_mem c he)
      rw [List.cons_append] at ih
      rw [List.cons_append, List.cons_append, words, hc, hd, if_neg Bool.false_ne_true,
        if_neg Bool.false_ne_true, ih]

theorem words_intercalate {ws : List (List α)} (h : ∀ w ∈ ws, w ≠ [] ∧ ∀ c ∈ w, blank c = false)
    {b : α} (hb : blank b = true) : words blank ([b].intercalate ws) = ws := by
  induction ws with
  | nil => rfl
  | cons w rest ih =>
    obtain ⟨hne, hw⟩ := h w (List.mem_cons_self ..)
    have ih := ih fun v hv => h v (List.mem_cons_of_mem w hv)
    cases rest with
    | nil => rw [List.intercalate_singleton, words_of_forall hne hw]
    | cons v others =>
      rw [List.intercalate_cons_cons, List.append_assoc, List.singleton_append,
        words_append_cons hne hw hb, ih]

end Words

end Strided.Text
