import Mathlib.Data.List.DropRight
import Mathlib.Data.List.TakeWhile
import Mathlib.Data.Nat.Digits.Defs
import Strided.Text.IntegerLiteral
import Strided.Text.Words

/-!
# What is read as an integer

`IsIntegerLiteral s n` is the grammar of integer literals, written down without reading anything: a
text is put together from blanks, a sign or none, digits with single underscores between them, and
blanks again, and `n` is the number with these digits.  `integer?` reads the texts of this grammar
and no others (`integer?_eq_some_iff`).

What is cut off at the ends of a text is settled once (`trim_append`): a text without blanks at its
ends is what remains of every text that it is put into between blanks.  Digits are no blanks in any
script (`isBlank_of_isDigit`), and so the reader cuts off the blanks of the grammar, neither more
nor less.
-/

namespace Strided.Text

/-! ### Cutting off the ends -/

/-- What is left, and what has been cut off in front of it and behind it. -/
theorem exists_trim (p : Char → Bool) (s : List Char) :
    ∃ front back, s = front ++ trim p s ++ back ∧ (∀ c ∈ front, p c = true) ∧
      ∀ c ∈ back, p c = true := by
  refine ⟨s.takeWhile p, (s.dropWhile p).rtakeWhile p, ?_, fun c hc => List.mem_takeWhile_imp hc,
    fun c hc => List.mem_rtakeWhile_imp hc⟩
  change s = s.takeWhile p ++ (s.dropWhile p).rdropWhile p ++ (s.dropWhile p).rtakeWhile p
  rw [List.append_assoc, List.rdropWhile_append_rtakeWhile, List.takeWhile_append_dropWhile]

/-- A text that neither begins nor ends with what is cut off. -/
def Bare (p : Char → Bool) (s : List Char) : Prop :=
  (∀ c, s.head? = some c → p c = false) ∧ ∀ c, s.getLast? = some c → p c = false

theorem dropWhile_eq_self {p : Char → Bool} {s : List Char}
    (h : ∀ c, s.head? = some c → p c = false) : s.dropWhile p = s := by
  cases s with
  | nil => rfl
  | cons c rest => exact List.dropWhile_cons_of_neg (by rw [h c rfl]; exact Bool.false_ne_true)

theorem trim_append {p : Char → Bool} {front s back : List Char} (hs : Bare p s)
    (hfront : ∀ c ∈ front, p c = true) (hback : ∀ c ∈ back, p c = true) :
    trim p (front ++ s ++ back) = s := by
  have hrest : ∀ c ∈ back.reverse, p c = true := fun c hc => hback c (List.mem_reverse.1 hc)
  have hlast : ∀ c, s.reverse.head? = some c → p c = false := by
    intro c hc
    rw [List.head?_reverse] at hc
    exact hs.2 c hc
  rw [trim, List.append_assoc, List.dropWhile_append_of_pos hfront]
  cases s with
  | nil =>
    rw [List.nil_append, List.dropWhile_eq_nil_iff.2 hback]
    rfl
  | cons c rest =>
    rw [dropWhile_eq_self (s := c :: rest ++ back) fun d hd => hs.1 d hd, List.reverse_append,
      List.dropWhile_append_of_pos hrest, dropWhile_eq_self hlast, List.reverse_reverse]

theorem trim_eq_self {p : Char → Bool} {s : List Char} (h : Bare p s) : trim p s = s := by
  have htrim := trim_append h (List.forall_mem_nil _) (List.forall_mem_nil _)
  rwa [List.nil_append, List.append_nil] at htrim

theorem Bare.of_forall {p : Char → Bool} {s : List Char} (h : ∀ c ∈ s, p c = false) : Bare p s :=
  ⟨fun c hc => h c (List.mem_of_mem_head? hc), fun c hc => h c (List.mem_of_mem_getLast? hc)⟩

theorem trim_eq_nil_iff {p : Char → Bool} {s : List Char} :
    trim p s = [] ↔ ∀ c ∈ s, p c = true := by
  constructor
  · intro h
    obtain ⟨front, back, hs, hfront, hback⟩ := exists_trim p s
    rw [h, List.append_nil] at hs
    intro c hc
    rw [hs] at hc
    exact (List.mem_append.1 hc).elim (hfront c) (hback c)
  · intro h
    rw [trim, List.dropWhile_eq_nil_iff.2 h]
    rfl

/-! ### Digits -/

/-- A digit of any script is no blank. -/
theorem isBlank_of_isDigit {c : Char} (h : isDigit c = true) : isBlank c = false := by
  have htable : ∀ first ∈ digitZeros, ∀ i < 10, let n := first + i
      ((0x09 ≤ n && n ≤ 0x0d) || (0x1c ≤ n && n ≤ 0x20) || n == 0x85 || n == 0xa0 || n == 0x1680
        || (0x2000 ≤ n && n ≤ 0x200a) || n == 0x2028 || n == 0x2029 || n == 0x202f || n == 0x205f
        || n == 0x3000) = false := by
    decide +kernel
  rw [isDigit, digitValue?, Option.isSome_map, List.find?_isSome] at h
  obtain ⟨first, hfirst, hrange⟩ := h
  simp only [Bool.and_eq_true, decide_eq_true_eq] at hrange
  have hc := htable first hfirst (c.toNat - first) (by omega)
  rwa [show first + (c.toNat - first) = c.toNat by omega] at hc

theorem isNumeralBlank_of_isBlank_eq_false {c : Char} (h : isBlank c = false) :
    isNumeralBlank c = false := by
  rw [isNumeralBlank, h, Bool.false_and]

/-- A run of digits with single underscores between them, and the values of the digits. -/
inductive DigitRun : List Char → List Nat → Prop
  | last {c : Char} {d : Nat} : digitValue? c = some d → DigitRun [c] [d]
  | next {c : Char} {d : Nat} {s : List Char} {ds : List Nat} : digitValue? c = some d →
      DigitRun s ds → DigitRun (c :: s) (d :: ds)
  | gap {c : Char} {d : Nat} {s : List Char} {ds : List Nat} : digitValue? c = some d →
      DigitRun s ds → DigitRun (c :: '_' :: s) (d :: ds)

theorem isDigit_of_digitValue? {c : Char} {d : Nat} (h : digitValue? c = some d) :
    isDigit c = true := by
  rw [isDigit, h]
  rfl

theorem DigitRun.exists_cons {s : List Char} {ds : List Nat} (h : DigitRun s ds) :
    ∃ c rest, s = c :: rest ∧ isDigit c = true := by
  cases h with
  | last hc => exact ⟨_, _, rfl, isDigit_of_digitValue? hc⟩
  | next hc _ => exact ⟨_, _, rfl, isDigit_of_digitValue? hc⟩
  | gap hc _ => exact ⟨_, _, rfl, isDigit_of_digitValue? hc⟩

theorem DigitRun.exists_concat {s : List Char} {ds : List Nat} (h : DigitRun s ds) :
    ∃ front c, s = front ++ [c] ∧ isDigit c = true := by
  induction h with
  | last hc => exact ⟨[], _, rfl, isDigit_of_digitValue? hc⟩
  | @next c d s ds _ _ ih =>
    obtain ⟨front, e, rfl, he⟩ := ih
    exact ⟨c :: front, e, rfl, he⟩
  | @gap c d s ds _ _ ih =>
    obtain ⟨front, e, rfl, he⟩ := ih
    exact ⟨c :: '_' :: front, e, rfl, he⟩

theorem digitRun?_of_digitRun {s : List Char} {ds : List Nat} (h : DigitRun s ds) :
    digitRun? s = some ds := by
  induction h with
  | last hc =>
    rw [digitRun?, hc]
    rfl
  | @gap c d s ds hc _ ih =>
    rw [digitRun?, hc, ih]
    rfl
  | @next c d s ds hc hrun ih =>
    -- What follows a digit without an underscore is a digit again.
    obtain ⟨e, rest, rfl, he⟩ := hrun.exists_cons
    have hunderscore : ∀ tail, e :: rest = '_' :: tail → False := by
      rintro tail ⟨⟩
      revert he
      decide
    rw [digitRun?, hc, ih]
    · rfl
    · exact List.cons_ne_nil e rest
    · exact hunderscore

theorem digitRun_of_digitRun? {s : List Char} {ds : List Nat} (h : digitRun? s = some ds) :
    DigitRun s ds := by
  fun_induction digitRun? s generalizing ds with
  | case1 => cases h
  | case2 c =>
    obtain ⟨d, hc, rfl⟩ := Option.map_eq_some_iff.1 h
    exact .last hc
  | case3 c rest ih =>
    obtain ⟨d, hc, h⟩ := Option.bind_eq_some_iff.1 h
    obtain ⟨others, hrest, h⟩ := Option.bind_eq_some_iff.1 h
    cases h
    exact .gap hc (ih hrest)
  | case4 c rest _ _ ih =>
    obtain ⟨d, hc, h⟩ := Option.bind_eq_some_iff.1 h
    obtain ⟨others, hrest, h⟩ := Option.bind_eq_some_iff.1 h
    cases h
    exact .next hc (ih hrest)

/-- **A run of digits is read as its digits**, and nothing else is. -/
theorem digitRun?_eq_some_iff {s : List Char} {ds : List Nat} :
    digitRun? s = some ds ↔ DigitRun s ds :=
  ⟨digitRun_of_digitRun?, digitRun?_of_digitRun⟩

/-- The number with the given digits, by their places. -/
theorem ofDigits_eq (ds : List Nat) : ofDigits ds = Nat.ofDigits 10 ds.reverse := by
  rw [Nat.ofDigits_eq_foldr, List.foldr_reverse, ofDigits]
  refine congrArg (fun f => ds.foldl f 0) ?_
  funext n d
  rw [Nat.cast_id, Nat.add_comm, Nat.mul_comm]

/-! ### Literals -/

/-- A sign, or none, and whether it is a minus sign. -/
inductive IsSign : List Char → Bool → Prop
  | absent : IsSign [] false
  | plus : IsSign ['+'] false
  | minus : IsSign ['-'] true

/-- A sign or none, and digits: the integer that they stand for. -/
inductive IsNumeral : List Char → Int → Prop
  | mk {sign digits : List Char} {negative : Bool} {ds : List Nat} : IsSign sign negative →
      DigitRun digits ds → ds.length ≤ maxDigits →
      IsNumeral (sign ++ digits)
        (if negative then -(Nat.ofDigits 10 ds.reverse : Nat)
          else (Nat.ofDigits 10 ds.reverse : Nat))

/-- **Integer literals**: a numeral between blanks. -/
inductive IsIntegerLiteral : List Char → Int → Prop
  | mk {front numeral back : List Char} {n : Int} : (∀ c ∈ front, isNumeralBlank c = true) →
      IsNumeral numeral n → (∀ c ∈ back, isNumeralBlank c = true) →
      IsIntegerLiteral (front ++ numeral ++ back) n

theorem splitSign_append {sign s : List Char} {negative : Bool} (h : IsSign sign negative)
    (hs : ∀ c, s.head? = some c → c ≠ '-' ∧ c ≠ '+') :
    splitSign (sign ++ s) = (negative, s) := by
  cases h with
  | plus => rfl
  | minus => rfl
  | absent =>
    rw [List.nil_append]
    unfold splitSign
    split
    · exact absurd rfl (hs '-' rfl).1
    · exact absurd rfl (hs '+' rfl).2
    · rfl

theorem exists_splitSign (s : List Char) :
    ∃ sign, IsSign sign (splitSign s).1 ∧ s = sign ++ (splitSign s).2 := by
  unfold splitSign
  split
  · exact ⟨_, .minus, rfl⟩
  · exact ⟨_, .plus, rfl⟩
  · exact ⟨_, .absent, rfl⟩

theorem bareInteger?_eq_some_iff {s : List Char} {n : Int} :
    bareInteger? s = some n ↔ IsNumeral s n := by
  constructor
  · intro h
    obtain ⟨sign, hsign, hs⟩ := exists_splitSign s
    rw [bareInteger?] at h
    generalize splitSign s = split at h hsign hs
    obtain ⟨negative, rest⟩ := split
    obtain ⟨ds, hds, h⟩ := Option.bind_eq_some_iff.1 h
    split at h
    · next hmost =>
      cases h
      rw [hs, ofDigits_eq]
      exact .mk hsign (digitRun?_eq_some_iff.1 hds) hmost
    · cases h
  · rintro ⟨hsign, hrun, hmost⟩
    obtain ⟨c, rest, rfl, hc⟩ := hrun.exists_cons
    have hnosign : ∀ d, (c :: rest).head? = some d → d ≠ '-' ∧ d ≠ '+' := by
      rintro d ⟨⟩
      constructor <;> rintro rfl <;> revert hc <;> decide
    rw [bareInteger?, splitSign_append hsign hnosign]
    change (digitRun? (c :: rest)).bind _ = _
    rw [digitRun?_eq_some_iff.2 hrun, Option.bind_some, if_pos hmost, ofDigits_eq]

theorem IsNumeral.bare {s : List Char} {n : Int} (h : IsNumeral s n) : Bare isNumeralBlank s := by
  obtain ⟨hsign, hrun, -⟩ := h
  have hdigit {c : Char} (hc : isDigit c = true) : isNumeralBlank c = false :=
    isNumeralBlank_of_isBlank_eq_false (isBlank_of_isDigit hc)
  constructor
  · intro c hc
    obtain ⟨d, rest, rfl, hd⟩ := hrun.exists_cons
    cases hsign <;> cases hc
    · exact hdigit hd
    · rfl
    · rfl
  · intro c hc
    obtain ⟨front, d, rfl, hd⟩ := hrun.exists_concat
    rw [← List.append_assoc, List.getLast?_concat] at hc
    cases hc
    exact hdigit hd

/-- **Integer literals are read as what they stand for**, and nothing else is read. -/
theorem integer?_eq_some_iff {s : List Char} {n : Int} :
    integer? s = some n ↔ IsIntegerLiteral s n := by
  rw [integer?, bareInteger?_eq_some_iff]
  constructor
  · intro h
    obtain ⟨front, back, hs, hfront, hback⟩ := exists_trim isNumeralBlank s
    have hliteral := IsIntegerLiteral.mk hfront h hback
    rwa [← hs] at hliteral
  · rintro ⟨hfront, hnumeral, hback⟩
    rwa [trim_append hnumeral.bare hfront hback]

theorem IsIntegerLiteral.exists_digit {s : List Char} {n : Int} (h : IsIntegerLiteral s n) :
    ∃ c ∈ s, isDigit c = true := by
  obtain ⟨-, ⟨-, hrun, -⟩, -⟩ := h
  obtain ⟨c, rest, rfl, hc⟩ := hrun.exists_cons
  exact ⟨c, by simp, hc⟩

end Strided.Text
