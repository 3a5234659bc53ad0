import Mathlib.Data.List.Basic
import Strided.Proofs.Outcome
import Strided.Text.Utf8

/-!
# UTF-8, both ways

`decode` reads octets one at a time and `encode` writes characters, so that neither says what the
other one does.  `decode_eq_ok_iff` joins them: octets are read as a text exactly if they are what
the text is written as.  Octets that are read as texts then keep doing so side by side
(`decode_append`, `decode_flatten`), wherever they are cut.

A character of several octets is a first one and a tail.  `Pending.Completes` says which tails the
first octet allows and `Pending.codePoint` which character the two make; `decodeFrom_pending_iff` is
the machine of `decodeFrom` run through a tail, and the other lemmas compare that with the way in
which characters are written.
-/

namespace Strided.Text.Utf8

namespace Pending

/-- The octets complete the character: as many as are owed, the next one within its bounds and the
others within those of every octet behind it. -/
def Completes (p : Pending) : List UInt8 → Prop
  | [] => False
  | b :: tail =>
    p.admits b ∧ tail.length = p.owed ∧ ∀ c ∈ tail, 0x80 ≤ c.toNat ∧ c.toNat ≤ 0xbf

/-- The code point of the character that the octets complete. -/
def codePoint (p : Pending) (tail : List UInt8) : Nat :=
  tail.foldl (fun bits b => bits * 64 + b.toNat % 64) p.bits

/-- What is pending when one more octet, but not the last one, has been read. -/
def next (p : Pending) (owed : Nat) (b : UInt8) : Pending :=
  ⟨p.first, p.position, p.read + 1, owed, 0x80, 0xbf, p.bitsWith b⟩

theorem admits_iff {p : Pending} {b : UInt8} :
    p.admits b = true ↔ p.low ≤ b.toNat ∧ b.toNat ≤ p.high := by
  simp [admits]

theorem completes_cons_of_owed_zero {p : Pending} (h : p.owed = 0) {b : UInt8} {tail : List UInt8} :
    p.Completes (b :: tail) ↔ p.admits b ∧ tail = [] := by
  simp only [Completes, h, List.length_eq_zero_iff]
  constructor
  · rintro ⟨hb, rfl, -⟩
    exact ⟨hb, rfl⟩
  · rintro ⟨hb, rfl⟩
    exact ⟨hb, rfl, nofun⟩

theorem completes_cons_of_owed_succ {p : Pending} {owed : Nat} (h : p.owed = owed + 1) {b : UInt8}
    {tail : List UInt8} :
    p.Completes (b :: tail) ↔ p.admits b ∧ (p.next owed b).Completes tail := by
  cases tail with
  | nil => simp [Completes, h]
  | cons c rest =>
    simp only [Completes, h, next, admits_iff, List.length_cons, List.mem_cons, forall_eq_or_imp,
      Nat.add_right_cancel_iff]
    constructor
    · rintro ⟨hb, hlen, hc, hrest⟩
      exact ⟨hb, hc, hlen, hrest⟩
    · rintro ⟨hb, hc, hlen, hrest⟩
      exact ⟨hb, hlen, hc, hrest⟩

end Pending

/-- A character that is pending is read with what completes it, and then the rest. -/
theorem decodeFrom_pending_iff {p : Pending} {position : Nat} {octets : List UInt8}
    {cs : List Char} :
    decodeFrom position (some p) octets = .ok cs ↔
      ∃ tail rest others, octets = tail ++ rest ∧ p.Completes tail ∧
        decodeFrom (position + tail.length) none rest = .ok others ∧
        cs = Char.ofNat (p.codePoint tail) :: others := by
  induction octets generalizing p position with
  | nil =>
    simp only [decodeFrom, reduceCtorEq, false_iff]
    rintro ⟨tail, rest, others, h, htail, -⟩
    rw [(List.append_eq_nil_iff.1 h.symm).1] at htail
    exact htail
  | cons b octets ih =>
    constructor
    · intro h
      rw [decodeFrom] at h
      split at h
      · next hb =>
        split at h
        · next howed =>
          obtain ⟨others, hrest, rfl⟩ := map_eq_ok_iff.1 h
          exact ⟨[b], octets, others, rfl,
            (Pending.completes_cons_of_owed_zero howed).2 ⟨hb, rfl⟩, hrest, rfl⟩
        · next owed howed =>
          obtain ⟨tail, rest, others, rfl, htail, hrest, rfl⟩ := ih.1 h
          refine ⟨b :: tail, rest, others, rfl,
            (Pending.completes_cons_of_owed_succ howed).2 ⟨hb, htail⟩, ?_, rfl⟩
          rwa [List.length_cons, Nat.add_comm tail.length, ← Nat.add_assoc]
      · cases h
    · rintro ⟨tail, rest, others, h, htail, hrest, rfl⟩
      cases tail with
      | nil => exact htail.elim
      | cons c tail =>
        obtain ⟨rfl, rfl⟩ := List.cons.inj h
        rw [decodeFrom, if_pos htail.1]
        split
        · next howed =>
          obtain ⟨-, rfl⟩ := (Pending.completes_cons_of_owed_zero howed).1 htail
          exact map_eq_ok_iff.2 ⟨others, hrest, rfl⟩
        · next owed howed =>
          obtain ⟨-, htail⟩ := (Pending.completes_cons_of_owed_succ howed).1 htail
          refine ih.2 ⟨tail, rest, others, rfl, htail, ?_, rfl⟩
          rwa [List.length_cons, Nat.add_comm tail.length, ← Nat.add_assoc] at hrest

/-! ### How characters are written -/

theorem encodeChar_of_lt_80 {c : Char} (h : c.toNat < 0x80) :
    String.utf8EncodeChar c = [UInt8.ofNat c.toNat] := by
  rw [String.utf8EncodeChar]
  exact if_pos (show c.toNat ≤ 0x7f by omega)

theorem encodeChar_of_lt_800 {c : Char} {n : Nat} (hc : c.toNat = n) (hlo : 0x80 ≤ n)
    (hhi : n < 0x800) :
    String.utf8EncodeChar c = [UInt8.ofNat (n / 64 % 32 + 192), UInt8.ofNat (n % 64 + 128)] := by
  subst hc
  rw [String.utf8EncodeChar]
  exact (if_neg (show ¬ c.toNat ≤ 0x7f by omega)).trans (if_pos (show c.toNat ≤ 0x7ff by omega))

theorem encodeChar_of_lt_10000 {c : Char} {n : Nat} (hc : c.toNat = n) (hlo : 0x800 ≤ n)
    (hhi : n < 0x10000) :
    String.utf8EncodeChar c =
      [UInt8.ofNat (n / 4096 % 16 + 224), UInt8.ofNat (n / 64 % 64 + 128),
        UInt8.ofNat (n % 64 + 128)] := by
  subst hc
  rw [String.utf8EncodeChar]
  exact (if_neg (show ¬ c.toNat ≤ 0x7f by omega)).trans
    ((if_neg (show ¬ c.toNat ≤ 0x7ff by omega)).trans (if_pos (show c.toNat ≤ 0xffff by omega)))

theorem encodeChar_of_ge_10000 {c : Char} {n : Nat} (hc : c.toNat = n) (hlo : 0x10000 ≤ n) :
    String.utf8EncodeChar c =
      [UInt8.ofNat (n / 262144 % 8 + 240), UInt8.ofNat (n / 4096 % 64 + 128),
        UInt8.ofNat (n / 64 % 64 + 128), UInt8.ofNat (n % 64 + 128)] := by
  subst hc
  rw [String.utf8EncodeChar]
  exact (if_neg (show ¬ c.toNat ≤ 0x7f by omega)).trans
    ((if_neg (show ¬ c.toNat ≤ 0x7ff by omega)).trans
      (if_neg (show ¬ c.toNat ≤ 0xffff by omega)))

/-- What is pending behind a first octet, by the number of octets that it asks for. -/
theorem start?_eq_some_iff {a : UInt8} {position : Nat} {p : Pending} :
    Pending.start? a position = some p ↔
      (0xc2 ≤ a.toNat ∧ a.toNat < 0xe0 ∧
        p = ⟨a, position, 1, 0, 0x80, 0xbf, a.toNat % 32⟩) ∨
      (0xe0 ≤ a.toNat ∧ a.toNat < 0xf0 ∧
        p = ⟨a, position, 1, 1, if a.toNat = 0xe0 then 0xa0 else 0x80,
          if a.toNat = 0xed then 0x9f else 0xbf, a.toNat % 16⟩) ∨
      (0xf0 ≤ a.toNat ∧ a.toNat < 0xf5 ∧
        p = ⟨a, position, 1, 2, if a.toNat = 0xf0 then 0x90 else 0x80,
          if a.toNat = 0xf4 then 0x8f else 0xbf, a.toNat % 8⟩) := by
  unfold Pending.start?
  constructor
  · intro h
    simp only at h
    split at h
    · cases h
    split at h
    · exact .inl ⟨by omega, by omega, (Option.some.inj h).symm⟩
    split at h
    · exact .inr (.inl ⟨by omega, by omega, (Option.some.inj h).symm⟩)
    split at h
    · exact .inr (.inr ⟨by omega, by omega, (Option.some.inj h).symm⟩)
    · cases h
  · rintro (⟨hlo, hhi, rfl⟩ | ⟨hlo, hhi, rfl⟩ | ⟨hlo, hhi, rfl⟩)
    · simp only [if_neg (show ¬ a.toNat < 0xc2 by omega), if_pos hhi]
    · simp only [if_neg (show ¬ a.toNat < 0xc2 by omega), if_neg (show ¬ a.toNat < 0xe0 by omega),
        if_pos hhi]
    · simp only [if_neg (show ¬ a.toNat < 0xc2 by omega), if_neg (show ¬ a.toNat < 0xe0 by omega),
        if_neg (show ¬ a.toNat < 0xf0 by omega), if_pos hhi]

theorem ofNat_eq_of_toNat {n : Nat} {b : UInt8} (h : n = b.toNat) : UInt8.ofNat n = b := by
  rw [h, UInt8.ofNat_toNat]

theorem toNat_ofNat_of_isValidChar {n : Nat} (h : n.isValidChar) : (Char.ofNat n).toNat = n := by
  rw [Char.ofNat, dif_pos h]
  rfl

/-- What completes a character is what the character is written as. -/
theorem encodeChar_of_completes {a : UInt8} {position : Nat} {p : Pending} {tail : List UInt8}
    (hp : Pending.start? a position = some p) (htail : p.Completes tail) :
    String.utf8EncodeChar (Char.ofNat (p.codePoint tail)) = a :: tail := by
  cases tail with
  | nil => exact htail.elim
  | cons b tail =>
    obtain ⟨hb, hlen, htail⟩ := htail
    rw [Pending.admits_iff] at hb
    rcases start?_eq_some_iff.1 hp with ⟨hlo, hhi, rfl⟩ | ⟨hlo, hhi, rfl⟩ | ⟨hlo, hhi, rfl⟩
    · obtain rfl := List.length_eq_zero_iff.1 hlen
      simp only [Pending.codePoint, List.foldl_cons, List.foldl_nil] at hb ⊢
      have hvalid := toNat_ofNat_of_isValidChar
        (show (a.toNat % 32 * 64 + b.toNat % 64).isValidChar from .inl (by omega))
      rw [encodeChar_of_lt_800 hvalid (by omega) (by omega), ofNat_eq_of_toNat (b := a) (by omega),
        ofNat_eq_of_toNat (b := b) (by omega)]
    · obtain ⟨c, rfl⟩ := List.length_eq_one_iff.1 hlen
      have hc := htail c (List.mem_singleton_self c)
      -- The bounds of the second octet keep out what has a shorter form, and the surrogates.
      have hb : 0x80 ≤ b.toNat ∧ b.toNat ≤ 0xbf ∧ (a.toNat = 0xe0 → 0xa0 ≤ b.toNat) ∧
          (a.toNat = 0xed → b.toNat ≤ 0x9f) := by
        simp only at hb
        split at hb <;> split at hb <;> omega
      simp only [Pending.codePoint, List.foldl_cons, List.foldl_nil]
      have hvalid := toNat_ofNat_of_isValidChar
        (show ((a.toNat % 16 * 64 + b.toNat % 64) * 64 + c.toNat % 64).isValidChar by
          unfold Nat.isValidChar
          omega)
      rw [encodeChar_of_lt_10000 hvalid (by omega) (by omega), ofNat_eq_of_toNat (b := a) (by omega),
        ofNat_eq_of_toNat (b := b) (by omega), ofNat_eq_of_toNat (b := c) (by omega)]
    · obtain ⟨c, d, rfl⟩ := List.length_eq_two.1 hlen
      have hc := htail c (List.mem_cons_self ..)
      have hd := htail d (List.mem_cons_of_mem _ (List.mem_cons_self ..))
      -- Here they keep out what has a shorter form, and what is beyond the last code point.
      have hb : 0x80 ≤ b.toNat ∧ b.toNat ≤ 0xbf ∧ (a.toNat = 0xf0 → 0x90 ≤ b.toNat) ∧
          (a.toNat = 0xf4 → b.toNat ≤ 0x8f) := by
        simp only at hb
        split at hb <;> split at hb <;> omega
      simp only [Pending.codePoint, List.foldl_cons, List.foldl_nil]
      have hvalid := toNat_ofNat_of_isValidChar
        (show (((a.toNat % 8 * 64 + b.toNat % 64) * 64 + c.toNat % 64) * 64 + d.toNat % 64).isValidChar
          from .inr (by omega))
      rw [encodeChar_of_ge_10000 hvalid (by omega), ofNat_eq_of_toNat (b := a) (by omega),
        ofNat_eq_of_toNat (b := b) (by omega), ofNat_eq_of_toNat (b := c) (by omega),
        ofNat_eq_of_toNat (b := d) (by omega)]

/-- A character that is not written as a single octet is written as a first one and what completes
it. -/
theorem exists_completes {c : Char} (hc : 0x80 ≤ c.toNat) (position : Nat) :
    ∃ a tail p, String.utf8EncodeChar c = a :: tail ∧ 0x80 ≤ a.toNat ∧
      Pending.start? a position = some p ∧ p.Completes tail ∧ p.codePoint tail = c.toNat := by
  have hvalid : c.toNat < 0xd800 ∨ 0xdfff < c.toNat ∧ c.toNat < 0x110000 := c.valid
  have hoctet : ∀ n, n < 256 → (UInt8.ofNat n).toNat = n := fun n hn =>
    UInt8.toNat_ofNat_of_lt' hn
  generalize hn : c.toNat = n at *
  by_cases h800 : n < 0x800
  · have ha := hoctet (n / 64 % 32 + 192) (by omega)
    have hb := hoctet (n % 64 + 128) (by omega)
    refine ⟨_, _, _, encodeChar_of_lt_800 hn hc h800, by omega,
      start?_eq_some_iff.2 (.inl ⟨by omega, by omega, rfl⟩), ⟨?_, rfl, nofun⟩, ?_⟩
    · rw [Pending.admits_iff]
      simp only
      omega
    · simp only [Pending.codePoint, List.foldl_cons, List.foldl_nil]
      omega
  by_cases h10000 : n < 0x10000
  · have ha := hoctet (n / 4096 % 16 + 224) (by omega)
    have hb := hoctet (n / 64 % 64 + 128) (by omega)
    have hd := hoctet (n % 64 + 128) (by omega)
    refine ⟨_, _, _, encodeChar_of_lt_10000 hn (by omega) h10000, by omega,
      start?_eq_some_iff.2 (.inr (.inl ⟨by omega, by omega, rfl⟩)), ⟨?_, rfl, ?_⟩, ?_⟩
    · rw [Pending.admits_iff]
      simp only
      split <;> split <;> omega
    · simp only [List.mem_singleton, forall_eq]
      omega
    · simp only [Pending.codePoint, List.foldl_cons, List.foldl_nil]
      omega
  · have ha := hoctet (n / 262144 % 8 + 240) (by omega)
    have hb := hoctet (n / 4096 % 64 + 128) (by omega)
    have hd := hoctet (n / 64 % 64 + 128) (by omega)
    have he := hoctet (n % 64 + 128) (by omega)
    refine ⟨_, _, _, encodeChar_of_ge_10000 hn (by omega), by omega,
      start?_eq_some_iff.2 (.inr (.inr ⟨by omega, by omega, rfl⟩)), ⟨?_, rfl, ?_⟩, ?_⟩
    · rw [Pending.admits_iff]
      simp only
      split <;> split <;> omega
    · simp only [List.mem_cons, List.not_mem_nil, or_false, forall_eq_or_imp, forall_eq]
      omega
    · simp only [Pending.codePoint, List.foldl_cons, List.foldl_nil]
      omega

/-! ### Reading and writing -/

theorem eq_encode_of_decodeFrom {position : Nat} {octets : List UInt8} {cs : List Char}
    (h : decodeFrom position none octets = .ok cs) : octets = cs.flatMap String.utf8EncodeChar := by
  induction hn : octets.length using Nat.strongRecOn generalizing position octets cs with
  | _ n ih =>
    cases octets with
    | nil =>
      cases h
      rfl
    | cons a octets =>
      rw [decodeFrom] at h
      split at h
      · next ha =>
        obtain ⟨others, hothers, rfl⟩ := map_eq_ok_iff.1 h
        have htoNat := toNat_ofNat_of_isValidChar (show a.toNat.isValidChar from .inl (by omega))
        rw [List.flatMap_cons, encodeChar_of_lt_80 (by omega), htoNat, UInt8.ofNat_toNat,
          List.singleton_append, ← ih octets.length (by rw [← hn]; exact Nat.lt_succ_self _) hothers rfl]
      · split at h
        · cases h
        · next p hp =>
          obtain ⟨tail, rest, others, rfl, htail, hothers, rfl⟩ := decodeFrom_pending_iff.1 h
          have hlt : rest.length < n := by
            rw [← hn, List.length_cons, List.length_append]
            omega
          rw [List.flatMap_cons, encodeChar_of_completes hp htail, ← ih rest.length hlt hothers rfl,
            List.cons_append]

theorem decodeFrom_encode (position : Nat) (cs : List Char) :
    decodeFrom position none (cs.flatMap String.utf8EncodeChar) = .ok cs := by
  induction cs generalizing position with
  | nil => rfl
  | cons c cs ih =>
    rw [List.flatMap_cons]
    by_cases hc : c.toNat < 0x80
    · have htoNat : (UInt8.ofNat c.toNat).toNat = c.toNat := UInt8.toNat_ofNat_of_lt' (by
        rw [UInt8.size]
        omega)
      rw [encodeChar_of_lt_80 hc, List.singleton_append, decodeFrom, htoNat, if_pos hc, ih]
      exact map_eq_ok_iff.2 ⟨cs, rfl, by rw [Char.ofNat_toNat]⟩
    · obtain ⟨a, tail, p, hencode, ha, hp, htail, hpoint⟩ :=
        exists_completes (c := c) (by omega) position
      rw [hencode, List.cons_append, decodeFrom, if_neg (by omega), hp]
      exact decodeFrom_pending_iff.2 ⟨tail, _, cs, rfl, htail, ih _, by rw [hpoint, Char.ofNat_toNat]⟩

/-- **Octets are read as a text exactly if they are what the text is written as.** -/
theorem decode_eq_ok_iff {octets : List UInt8} {s : String} :
    decode octets = .ok s ↔ octets = encode s := by
  rw [decode, map_eq_ok_iff]
  constructor
  · rintro ⟨cs, hcs, rfl⟩
    rw [encode, String.toList_ofList]
    exact eq_encode_of_decodeFrom hcs
  · rintro rfl
    exact ⟨s.toList, decodeFrom_encode 0 s.toList, String.ofList_toList.symm⟩

@[simp] theorem decode_encode (s : String) : decode (encode s) = .ok s := decode_eq_ok_iff.2 rfl

theorem decode_append {a b : List UInt8} {s t : String} (ha : decode a = .ok s)
    (hb : decode b = .ok t) : decode (a ++ b) = .ok (s ++ t) := by
  rw [decode_eq_ok_iff] at ha hb ⊢
  rw [encode_append, ha, hb]

theorem decode_flatten {pieces : List (List UInt8)} {texts : List String}
    (h : List.Forall₂ (fun b s => decode b = .ok s) pieces texts) :
    decode pieces.flatten = .ok (String.join texts) := by
  induction h with
  | nil => rfl
  | cons hb _ ih =>
    rw [List.flatten_cons, String.join_cons]
    exact decode_append hb ih

end Strided.Text.Utf8
