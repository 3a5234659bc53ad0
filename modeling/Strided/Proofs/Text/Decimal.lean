import Strided.Proofs.Text.IntegerLiteral

/-!
# Integers in decimal

An integer is written in decimal digits, which make an integer literal as long as they are not too
many (`isIntegerLiteral_toString`), and reading them gives the integer back (`integer?_toString`).
So does reading a text of such integers line by line (`lines_decimalLines`).
-/

namespace Strided.Text

/-! ### Digits -/

theorem toNat_of_isDigit {c : Char} (h : c.isDigit = true) : 48 ≤ c.toNat ∧ c.toNat ≤ 57 := by
  simp only [Char.isDigit, Bool.and_eq_true, decide_eq_true_eq, ge_iff_le, UInt32.le_iff_toNat_le]
    at h
  exact h

theorem digitValue?_of_isDigit {c : Char} (h : c.isDigit = true) :
    digitValue? c = some (c.toNat - '0'.toNat) := by
  obtain ⟨hlo, hhi⟩ := toNat_of_isDigit h
  rw [digitValue?, digitZeros, List.find?_cons_of_pos]
  · rfl
  · simp only [Bool.and_eq_true, decide_eq_true_eq]
    omega

theorem digitRun_of_isDigit {s : List Char} (hne : s ≠ []) (h : ∀ c ∈ s, c.isDigit = true) :
    DigitRun s (s.map fun c => c.toNat - '0'.toNat) := by
  induction s with
  | nil => exact absurd rfl hne
  | cons c rest ih =>
    have hc := digitValue?_of_isDigit (h c (List.mem_cons_self ..))
    cases rest with
    | nil => exact .last hc
    | cons d others =>
      exact .next hc (ih (List.cons_ne_nil d others) fun e he => h e (List.mem_cons_of_mem c he))

theorem ofDigits_eq_ofDigitChars (s : List Char) :
    ofDigits (s.map fun c => c.toNat - '0'.toNat) = Nat.ofDigitChars 10 s 0 := by
  rw [ofDigits, List.foldl_map, Nat.ofDigitChars]
  refine congrArg (fun f => s.foldl f 0) ?_
  funext n c
  rw [Nat.mul_comm]

/-! ### Integers -/

theorem isDigit_of_mem_repr {m : Nat} {c : Char} (h : c ∈ m.repr.toList) : c.isDigit = true := by
  rw [Nat.toList_repr] at h
  exact Nat.isDigit_of_mem_toDigits (by decide) (by decide) h

theorem repr_ne_nil (m : Nat) : m.repr.toList ≠ [] := by
  rw [Nat.toList_repr]
  exact Nat.toDigits_ne_nil

/-- How an integer is written: in digits, behind a minus sign if it is negative. -/
theorem toString_eq (n : Int) :
    ∃ sign negative, IsSign sign negative ∧ (toString n).toList = sign ++ n.natAbs.repr.toList ∧
      n = if negative then -(n.natAbs : Int) else n.natAbs := by
  cases n with
  | ofNat m => exact ⟨[], false, .absent, rfl, rfl⟩
  | negSucc m => exact ⟨['-'], true, .minus, String.toList_append, rfl⟩

theorem mem_toString {n : Int} {c : Char} (h : c ∈ (toString n).toList) :
    c = '-' ∨ c.isDigit = true := by
  cases n with
  | ofNat m => exact .inr (isDigit_of_mem_repr h)
  | negSucc m =>
    change c ∈ ("-" ++ (m + 1).repr).toList at h
    rw [String.toList_append] at h
    rcases List.mem_append.1 h with h | h
    · exact .inl (List.mem_singleton.1 h)
    · exact .inr (isDigit_of_mem_repr h)

theorem isBlank_of_mem_toString {n : Int} {c : Char} (h : c ∈ (toString n).toList) :
    isBlank c = false := by
  rcases mem_toString h with rfl | h
  · rfl
  · exact isBlank_of_isDigit (isDigit_of_digitValue? (digitValue?_of_isDigit h))

theorem length_repr_le {m k : Nat} (hk : 0 < k) (h : m < Nat.pow 10 k) :
    m.repr.toList.length ≤ k := by
  rw [Nat.toList_repr]
  exact (Nat.length_toDigits_le_iff (by decide) hk).2 h

/-- **An integer that may be written is written as a literal.** -/
theorem isIntegerLiteral_toString {n : Int} (h : isWritable n = true) :
    IsIntegerLiteral (toString n).toList n := by
  rw [isWritable, decide_eq_true_eq] at h
  obtain ⟨sign, negative, hsign, htext, hn⟩ := toString_eq n
  have hrun := digitRun_of_isDigit (repr_ne_nil n.natAbs) fun c => isDigit_of_mem_repr
  have hmost := length_repr_le (by decide) h
  have hnumeral : IsNumeral (toString n).toList n := by
    have hmk := IsNumeral.mk hsign hrun (by rwa [List.length_map])
    rwa [← ofDigits_eq, ofDigits_eq_ofDigitChars, Nat.toList_repr, Nat.ofDigitChars_ten_toDigits,
      ← Nat.toList_repr, ← htext, ← hn] at hmk
  have hliteral := IsIntegerLiteral.mk (List.forall_mem_nil _) hnumeral (List.forall_mem_nil _)
  rwa [List.nil_append, List.append_nil] at hliteral

theorem integer?_toString {n : Int} (h : isWritable n = true) :
    integer? (toString n).toList = some n :=
  integer?_eq_some_iff.2 (isIntegerLiteral_toString h)

/-! ### Lines of integers -/

theorem linesBetween_append {line : List Char} (h : ∀ c ∈ line, isLineEnd c = false)
    (rest : List Char) :
    linesBetween isLineEnd (line ++ '\n' :: rest) = line :: linesBetween isLineEnd rest := by
  induction line with
  | nil =>
    rw [List.nil_append, linesBetween]
    · rfl
    · rintro tail ⟨⟩
  | cons c line ih =>
    have hc := h c (List.mem_cons_self ..)
    have ih := ih fun d hd => h d (List.mem_cons_of_mem c hd)
    rw [List.cons_append, linesBetween, hc, ih]
    · rfl
    · rintro tail rfl
      cases hc

/-- Integers in decimal, a line each. -/
def decimalLines (ns : List Int) : String := String.join (ns.map fun n => toString n ++ "\n")

/-- **Integers that are written a line each are read back line by line.** -/
theorem lines_decimalLines {ns : List Int} (h : ∀ n ∈ ns, isWritable n = true) :
    (linesBetween isLineEnd (decimalLines ns).toList).map integer? = ns.map some := by
  induction ns with
  | nil => rfl
  | cons n rest ih =>
    have hline : ∀ c ∈ (toString n).toList, isLineEnd c = false := by
      intro c hc
      rcases mem_toString hc with rfl | hc
      · rfl
      · rw [isLineEnd, Bool.or_eq_false_iff, beq_eq_false_iff_ne, beq_eq_false_iff_ne]
        constructor
        · rintro rfl
          cases hc
        · rintro rfl
          cases hc
    have hlist : (decimalLines (n :: rest)).toList =
        (toString n).toList ++ '\n' :: (decimalLines rest).toList := by
      rw [decimalLines, List.map_cons, String.join_cons, String.toList_append, String.toList_append,
        List.append_assoc]
      rfl
    rw [hlist, linesBetween_append hline, List.map_cons, List.map_cons,
      integer?_toString (h n (List.mem_cons_self ..)),
      ih fun m hm => h m (List.mem_cons_of_mem n hm)]

end Strided.Text
