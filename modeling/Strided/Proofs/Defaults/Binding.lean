import Mathlib.Data.List.Nodup
import Strided.Defaults.Signature
import Strided.Proofs.Outcome

/-!
# What binding gives

A function declares its parameters in a certain order and under names of their own
(`Signature.WellFormed`).  If the arguments of a call can be bound to the parameters, then every
parameter has an argument once those that were left out are filled in, and what a parameter gathered
is a tuple, or a dictionary of keyword arguments that no other parameter takes
(`Signature.suits_of_bind`).
-/

namespace Strided.Defaults

/-! ### Well-formed signatures -/

namespace ParameterKind

/-- A parameter of the first kind may stand before one of the second. -/
def precedes : ParameterKind → ParameterKind → Bool
  | positionalOnly, _ => true
  | positionalOrKeyword, k => k != positionalOnly
  | restPositional, k | keywordOnly, k => k.isByKeyword
  | restKeyword, _ => false

def gathers : ParameterKind → Bool
  | restPositional | restKeyword => true
  | positionalOnly | positionalOrKeyword | keywordOnly => false

def isNamed : ParameterKind → Bool
  | positionalOrKeyword | keywordOnly => true
  | positionalOnly | restPositional | restKeyword => false

end ParameterKind

/-- The parameters are such as a function can declare. -/
structure Signature.WellFormed (s : Signature) : Prop where
  nodup : (s.map (·.name)).Nodup
  ordered : s.Pairwise fun p q => p.kind.precedes q.kind
  default_isNone : ∀ p ∈ s, p.kind.gathers → p.default.isNone

instance (s : Signature) : Decidable s.WellFormed :=
  decidable_of_iff
    ((s.map (·.name)).Nodup ∧ (s.Pairwise fun p q => p.kind.precedes q.kind) ∧
      ∀ p ∈ s, p.kind.gathers → p.default.isNone)
    ⟨fun ⟨hn, ho, hd⟩ => ⟨hn, ho, hd⟩, fun ⟨hn, ho, hd⟩ => ⟨hn, ho, hd⟩⟩

namespace Signature.WellFormed

variable {s : Signature} {p q : Parameter}

theorem eq_of_name_eq (hs : s.WellFormed) (hp : p ∈ s) (hq : q ∈ s) (h : p.name = q.name) :
    p = q :=
  List.inj_on_of_nodup_map hs.nodup hp hq h

/-- At most one parameter gathers keyword arguments. -/
theorem eq_of_restKeyword (hs : s.WellFormed) (hp : p ∈ s) (hq : q ∈ s)
    (hpk : p.kind = .restKeyword) (hqk : q.kind = .restKeyword) : p = q := by
  by_contra hne
  have hnever {a b : Parameter} (ha : a.kind = .restKeyword) : ¬ a.kind.precedes b.kind := by
    simp [ha, ParameterKind.precedes]
  obtain ⟨front, back, rfl⟩ := List.append_of_mem hp
  rw [List.mem_append, List.mem_cons] at hq
  obtain ⟨-, hback, hfront⟩ := List.pairwise_append.1 hs.ordered
  rcases hq with hq | rfl | hq
  · exact hnever hqk (hfront q hq p (List.mem_cons_self ..))
  · exact hne rfl
  · exact hnever hpk (List.rel_of_pairwise_cons hback hq)

end Signature.WellFormed

/-! ### Arguments by name -/

namespace Arguments

def names (a : Arguments) : List String := a.map (·.1)

theorem mem_names {a : Arguments} {n : String} : n ∈ a.names ↔ (a.lookup n).isSome := by
  rw [names, List.mem_map, List.lookup_isSome_iff]
  exact exists_congr fun e => and_congr_right fun _ => by rw [beq_iff_eq, eq_comm]

@[simp] theorem names_append (a b : Arguments) : (a ++ b).names = a.names ++ b.names :=
  List.map_append

theorem not_mem_names {a : Arguments} {n : String} : n ∉ a.names ↔ a.lookup n = none := by
  rw [mem_names, Option.not_isSome_iff_eq_none]

theorem mem_of_lookup {a : Arguments} {n : String} {v : Value} (h : a.lookup n = some v) :
    (n, v) ∈ a := by
  obtain ⟨front, back, rfl, -⟩ := List.lookup_eq_some_iff.1 h
  exact List.mem_append_right _ (List.mem_cons_self ..)

end Arguments

/-- What a parameter can hold: what it gathered is a tuple, or a dictionary of the keyword arguments
`extra`. -/
structure Parameter.Holds (p : Parameter) (extra : Arguments) (v : Value) : Prop where
  tuple : p.kind = .restPositional → ∃ items, v = .tuple items
  dict : p.kind = .restKeyword → v = Signature.gathered extra

theorem Parameter.holds_of_not_gathers {p : Parameter} (hp : ¬ p.kind.gathers) (extra : Arguments)
    (v : Value) : p.Holds extra v :=
  ⟨fun hk => absurd (hk ▸ rfl) hp, fun hk => absurd (hk ▸ rfl) hp⟩

namespace Signature

open Arguments

variable {s front left : Signature} {p : Parameter} {positional : List Value}
  {keywords first second bound extra : Arguments}

/-! ### Positional arguments -/

/-- `first` are arguments that the parameters `front` took by position. -/
structure TakenByPosition (keywords : Arguments) (front : Signature) (first : Arguments) : Prop where
  kind_ne : ∀ p ∈ front, p.kind ≠ .restKeyword
  given : ∀ p ∈ front, p.kind.gathers ∨ p.name ∈ first.names
  apart : ∀ p ∈ front, p.kind.isNamed → p.name ∉ keywords.names
  held : ∀ e ∈ first, ∃ p ∈ front, p.name = e.1 ∧ ∀ extra, p.Holds extra e.2

namespace TakenByPosition

theorem nil : TakenByPosition keywords [] [] := ⟨nofun, nofun, nofun, nofun⟩

theorem rest (hp : p.kind = .restPositional) (items : Option (List Value)) :
    TakenByPosition keywords [p] (items.toList.map fun items => (p.name, .tuple items)) := by
  refine ⟨?_, ?_, ?_, ?_⟩
  · simp [hp]
  · simp [hp, ParameterKind.gathers]
  · simp [hp, ParameterKind.isNamed]
  · intro e he
    obtain ⟨items, -, rfl⟩ := List.mem_map.1 he
    exact ⟨p, List.mem_singleton.2 rfl, rfl, fun _ => ⟨fun _ => ⟨items, rfl⟩, by simp [hp]⟩⟩

theorem cons {v : Value} (hp : ¬ p.kind.gathers) (hname : p.kind.isNamed → p.name ∉ keywords.names)
    (h : TakenByPosition keywords front first) :
    TakenByPosition keywords (p :: front) ((p.name, v) :: first) := by
  have hkind : p.kind ≠ .restKeyword ∧ p.kind ≠ .restPositional :=
    ⟨fun hk => hp (hk ▸ rfl), fun hk => hp (hk ▸ rfl)⟩
  refine ⟨List.forall_mem_cons.2 ⟨hkind.1, h.kind_ne⟩, List.forall_mem_cons.2 ⟨.inr ?_, ?_⟩,
    List.forall_mem_cons.2 ⟨hname, h.apart⟩, List.forall_mem_cons.2 ⟨?_, ?_⟩⟩
  · exact List.mem_cons_self ..
  · exact fun q hq => (h.given q hq).imp_right (List.mem_cons_of_mem _)
  · exact ⟨p, List.mem_cons_self .., rfl, fun _ => ⟨fun hk => absurd hk hkind.2,
      fun hk => absurd hk hkind.1⟩⟩
  · intro e he
    obtain ⟨q, hq, hheld⟩ := h.held e he
    exact ⟨q, List.mem_cons_of_mem p hq, hheld⟩

end TakenByPosition

/-- The positional arguments go to the parameters in front, and the others are left for keywords. -/
theorem takenByPosition_of_bindPositional
    (h : bindPositional keywords s positional = .ok (first, left)) :
    ∃ front, s = front ++ left ∧ TakenByPosition keywords front first := by
  induction s generalizing positional first left with
  | nil =>
    cases positional with
    | nil =>
      cases h
      exact ⟨[], rfl, .nil⟩
    | cons v values => cases h
  | cons p rest ih =>
    cases positional with
    | nil =>
      rw [bindPositional] at h
      split at h
      next hp =>
        cases h
        exact ⟨[p], rfl, .rest hp none⟩
      next =>
        split at h
        · split at h
          · cases h
          · cases h
            exact ⟨[], rfl, .nil⟩
        · split at h
          · cases h
            exact ⟨[], rfl, .nil⟩
          · cases h
    | cons v values =>
      -- a parameter that takes one argument, and then the others
      have hone (hp : ¬ p.kind.gathers) (hname : p.kind.isNamed → p.name ∉ keywords.names)
          (h : (bindPositional keywords rest values >>= fun r =>
            .ok ((p.name, v) :: r.1, r.2)) = Except.ok (first, left)) :
          ∃ front, p :: rest = front ++ left ∧ TakenByPosition keywords front first := by
        obtain ⟨⟨bound, left⟩, hrest, hbound⟩ := exists_of_bind_eq_ok h
        cases hbound
        obtain ⟨front, rfl, htaken⟩ := ih hrest
        exact ⟨p :: front, rfl, htaken.cons hp hname⟩
      cases hp : p.kind with
      | restKeyword | keywordOnly => simp [bindPositional, hp] at h
      | restPositional =>
        simp only [bindPositional, hp] at h
        cases h
        exact ⟨[p], rfl, .rest hp (some (v :: values))⟩
      | positionalOnly =>
        simp only [bindPositional, hp, ne_eq, not_true_eq_false, and_false, if_false] at h
        exact hone (by simp [hp, ParameterKind.gathers]) (by simp [hp, ParameterKind.isNamed]) h
      | positionalOrKeyword =>
        simp only [bindPositional, hp, ne_eq, reduceCtorEq, not_false_eq_true, and_true] at h
        split at h
        · cases h
        next hname =>
          exact hone (by simp [hp, ParameterKind.gathers]) (fun _ => mem_names.not.2 hname) h

/-! ### Keyword arguments -/

/-- `second` are keyword arguments that the parameters `left` took, and `extra` those that no
parameter took. -/
structure TakenByKeyword (keywords : Arguments) (left : Signature) (second extra : Arguments) :
    Prop where
  sublist : extra.Sublist keywords
  given : ∀ p ∈ left, p.kind.gathers ∨ p.name ∈ second.names ∨ p.default.isSome
  apart : ∀ p ∈ left, p.kind.isNamed → p.name ∉ extra.names
  held : ∀ e ∈ second, ∃ p ∈ left, p.name = e.1 ∧ ¬ p.kind.gathers

namespace TakenByKeyword

theorem nil : TakenByKeyword keywords [] [] keywords := ⟨.refl _, nofun, nofun, nofun⟩

theorem skip (hp : p.kind.gathers ∨ (p.name ∉ keywords.names ∧ p.default.isSome))
    (h : TakenByKeyword keywords left second extra) :
    TakenByKeyword keywords (p :: left) second extra := by
  refine ⟨h.sublist, List.forall_mem_cons.2 ⟨?_, h.given⟩, List.forall_mem_cons.2 ⟨?_, h.apart⟩,
    fun e he => ?_⟩
  · exact hp.imp_right fun hp => .inr hp.2
  · intro hnamed hname
    rcases hp with hp | ⟨hp, -⟩
    · cases hk : p.kind <;> simp_all [ParameterKind.gathers, ParameterKind.isNamed]
    · exact hp ((h.sublist.map _).mem hname)
  · obtain ⟨q, hq, hheld⟩ := h.held e he
    exact ⟨q, List.mem_cons_of_mem p hq, hheld⟩

theorem cons {v : Value} (hp : ¬ p.kind.gathers)
    (h : TakenByKeyword (keywords.filter (·.1 != p.name)) left second extra) :
    TakenByKeyword keywords (p :: left) ((p.name, v) :: second) extra := by
  have hname : p.name ∉ names (keywords.filter (·.1 != p.name)) := by
    simp [names]
  refine ⟨h.sublist.trans List.filter_sublist, List.forall_mem_cons.2 ⟨.inr (.inl ?_), ?_⟩,
    List.forall_mem_cons.2 ⟨fun _ hn => hname ((h.sublist.map _).mem hn), h.apart⟩,
    List.forall_mem_cons.2 ⟨⟨p, List.mem_cons_self .., rfl, hp⟩, ?_⟩⟩
  · exact List.mem_cons_self ..
  · exact fun q hq => (h.given q hq).imp_right (.imp_left (List.mem_cons_of_mem _))
  · intro e he
    obtain ⟨q, hq, hheld⟩ := h.held e he
    exact ⟨q, List.mem_cons_of_mem p hq, hheld⟩

end TakenByKeyword

theorem takenByKeyword_of_bindKeywords (h : bindKeywords left keywords = .ok (second, extra)) :
    TakenByKeyword keywords left second extra := by
  induction left generalizing keywords second extra with
  | nil =>
    cases h
    exact .nil
  | cons p rest ih =>
    by_cases hp : p.kind.gathers
    · have hrest : bindKeywords rest keywords = .ok (second, extra) := by
        rw [← h, bindKeywords]
        cases hk : p.kind <;> simp_all [ParameterKind.gathers]
      exact (ih hrest).skip (.inl hp)
    · rw [bindKeywords] at h
      split at h
      next hk => exact absurd (hk ▸ rfl) hp
      next hk => exact absurd (hk ▸ rfl) hp
      next =>
        split at h
        next v hv =>
          split at h
          · cases h
          · obtain ⟨⟨bound, left⟩, hrest, hbound⟩ := exists_of_bind_eq_ok h
            cases hbound
            exact (ih hrest).cons hp
        next hnone =>
          split at h
          · cases h
          next hdefault =>
            refine (ih h).skip (.inr ⟨not_mem_names.2 hnone, ?_⟩)
            simpa [Option.isSome_iff_ne_none] using hdefault

/-! ### All arguments -/

/-- The arguments that were bound are such that every parameter can have one of its own. -/
structure Binds (s : Signature) (bound extra : Arguments) : Prop where
  given : ∀ p ∈ s, p.name ∈ bound.names ∨ (leftOut p).isSome
  held : ∀ e ∈ bound, ∃ p ∈ s, p.name = e.1 ∧ p.Holds extra e.2
  /-- If no parameter gathered the keyword arguments that found none, then there are none. -/
  extra_eq_nil : ∀ p ∈ s, p.kind = .restKeyword → p.name ∉ bound.names → extra = []
  nodup : extra.names.Nodup
  apart : ∀ p ∈ s, p.kind.isNamed → p.name ∉ extra.names

theorem leftOut_isSome_of_gathers (hp : p.kind.gathers) : (leftOut p).isSome := by
  unfold leftOut
  cases p.default <;> cases hk : p.kind <;> simp_all [ParameterKind.gathers]

theorem leftOut_isSome_of_default (hp : p.default.isSome) : (leftOut p).isSome := by
  obtain ⟨v, hv⟩ := Option.isSome_iff_exists.1 hp
  simp [leftOut, hv]

/-- Arguments are bound by position, by keyword, and to the parameter that gathers the keyword
arguments that find no other. -/
theorem bind_cases (h : s.bind positional keywords = .ok bound) :
    ∃ first left second extra rest,
      bindPositional keywords s positional = .ok (first, left) ∧
      bindKeywords left keywords = .ok (second, extra) ∧ bound = first ++ second ++ rest ∧
      (extra = [] ∧ rest = [] ∨
        ∃ q ∈ left, q.kind = .restKeyword ∧ rest = [(q.name, gathered extra)]) := by
  obtain ⟨⟨first, left⟩, hfirst, h⟩ := exists_of_bind_eq_ok h
  obtain ⟨⟨second, extra⟩, hsecond, h⟩ := exists_of_bind_eq_ok h
  dsimp only at h
  split at h
  · cases h
    exact ⟨first, left, second, [], [], hfirst, hsecond, (List.append_nil _).symm,
      .inl ⟨rfl, rfl⟩⟩
  next q _ hq =>
    cases h
    refine ⟨first, left, second, _, _, hfirst, hsecond, rfl, .inr ⟨q, ?_, ?_, rfl⟩⟩
    · exact List.mem_of_find?_eq_some hq
    · simpa using List.find?_some hq
  · cases h

theorem binds_of_bind (hs : s.WellFormed) (hkeywords : keywords.names.Nodup)
    (h : s.bind positional keywords = .ok bound) : ∃ extra, s.Binds bound extra := by
  obtain ⟨first, left, second, extra, rest, hfirst, hsecond, rfl, hrest⟩ := bind_cases h
  obtain ⟨front, rfl, hfront⟩ := takenByPosition_of_bindPositional hfirst
  have hleft := takenByKeyword_of_bindKeywords hsecond
  have hextra {n : String} (hn : n ∈ extra.names) : n ∈ keywords.names :=
    (hleft.sublist.map _).mem hn
  refine ⟨extra, ?_, ?_, ?_, (hleft.sublist.map _).nodup hkeywords, ?_⟩
  · intro p hp
    simp only [names_append, List.mem_append]
    rcases List.mem_append.1 hp with hp | hp
    · rcases hfront.given p hp with hgathers | hname
      · exact .inr (leftOut_isSome_of_gathers hgathers)
      · exact .inl (.inl (.inl hname))
    · rcases hleft.given p hp with hgathers | hname | hdefault
      · exact .inr (leftOut_isSome_of_gathers hgathers)
      · exact .inl (.inl (.inr hname))
      · exact .inr (leftOut_isSome_of_default hdefault)
  · intro e he
    rw [List.mem_append, List.mem_append] at he
    rcases he with (he | he) | he
    · obtain ⟨p, hp, hname, hheld⟩ := hfront.held e he
      exact ⟨p, List.mem_append_left _ hp, hname, hheld extra⟩
    · obtain ⟨p, hp, hname, hgathers⟩ := hleft.held e he
      exact ⟨p, List.mem_append_right _ hp, hname, p.holds_of_not_gathers hgathers extra e.2⟩
    · rcases hrest with ⟨-, rfl⟩ | ⟨q, hq, hkind, rfl⟩
      · cases he
      · cases List.mem_singleton.1 he
        exact ⟨q, List.mem_append_right _ hq, rfl, by simp [hkind], fun _ => rfl⟩
  · intro p hp hkind hname
    rcases hrest with ⟨hnil, -⟩ | ⟨q, hq, hqkind, rfl⟩
    · exact hnil
    · have hpq : p = q := hs.eq_of_restKeyword hp (List.mem_append_right _ hq) hkind hqkind
      refine absurd ?_ hname
      simp [names, hpq]
  · intro p hp hnamed hname
    rcases List.mem_append.1 hp with hp | hp
    · exact hfront.apart p hp hnamed (hextra hname)
    · exact hleft.apart p hp hnamed hname

/-! ### The arguments of all parameters -/

/-- The parameters with a value for each name. -/
def assign (s : Signature) (value : String → Value) : Arguments :=
  s.map fun p => (p.name, value p.name)

/-- The values are such as the parameters can hold, where `extra` are keyword arguments of names that
no parameter can take. -/
structure Suits (s : Signature) (extra : Arguments) (value : String → Value) : Prop where
  holds : ∀ p ∈ s, p.Holds extra (value p.name)
  nodup : extra.names.Nodup
  apart : ∀ p ∈ s, p.kind.isNamed → p.name ∉ extra.names

theorem exists_value (hs : s.WellFormed) (f : Parameter → Value) :
    ∃ value : String → Value, ∀ p ∈ s, value p.name = f p := by
  refine ⟨fun n => ((s.find? (·.name = n)).map f).getD .none, fun p hp => ?_⟩
  obtain ⟨q, hq⟩ : ∃ q, s.find? (·.name = p.name) = some q :=
    Option.isSome_iff_exists.1 (List.find?_isSome.2 ⟨p, hp, decide_eq_true rfl⟩)
  have hname : q.name = p.name := by simpa using List.find?_some hq
  change ((s.find? (·.name = p.name)).map f).getD .none = f p
  rw [hq, hs.eq_of_name_eq (List.mem_of_find?_eq_some hq) hp hname]
  rfl

theorem Binds.holds (hs : s.WellFormed) (h : s.Binds bound extra) (hp : p ∈ s) {v : Value}
    (hv : (bound.lookup p.name).or (leftOut p) = some v) : p.Holds extra v := by
  cases hbound : bound.lookup p.name with
  | some w =>
    rw [hbound] at hv
    cases hv
    obtain ⟨q, hq, hname, hheld⟩ := h.held _ (mem_of_lookup hbound)
    rwa [hs.eq_of_name_eq hp hq hname.symm]
  | none =>
    rw [hbound, Option.none_or, leftOut] at hv
    -- what gathers arguments has no default, so it is what nothing gathers to
    have hdefault (hgathers : p.kind.gathers) : p.default = none :=
      Option.isNone_iff_eq_none.1 (hs.default_isNone p hp hgathers)
    constructor
    · intro hkind
      rw [hdefault (hkind ▸ rfl), hkind] at hv
      cases hv
      exact ⟨[], rfl⟩
    · intro hkind
      rw [hdefault (hkind ▸ rfl), hkind] at hv
      cases hv
      rw [h.extra_eq_nil p hp hkind (not_mem_names.2 hbound)]
      rfl

/-- If the arguments of a call can be bound then every parameter has a value, which is what was
bound to it or else what it is given if nothing is, and which it can hold. -/
theorem suits_of_bind (hs : s.WellFormed) (hkeywords : keywords.names.Nodup)
    (h : s.bind positional keywords = .ok bound) :
    ∃ value extra, (∀ p ∈ s, (bound.lookup p.name).or (leftOut p) = some (value p.name)) ∧
      s.Suits extra value := by
  obtain ⟨extra, hbinds⟩ := binds_of_bind hs hkeywords h
  obtain ⟨value, hvalue⟩ :=
    exists_value hs fun p => ((bound.lookup p.name).or (leftOut p)).getD .none
  have hsome : ∀ p ∈ s, (bound.lookup p.name).or (leftOut p) = some (value p.name) := by
    intro p hp
    have h : ((bound.lookup p.name).or (leftOut p)).isSome := by
      rw [Option.isSome_or, Bool.or_eq_true, ← mem_names]
      exact hbinds.given p hp
    obtain ⟨v, hv⟩ := Option.isSome_iff_exists.1 h
    rw [hvalue p hp, hv]
    rfl
  exact ⟨value, extra, hsome, fun p hp => hbinds.holds hs hp (hsome p hp), hbinds.nodup,
    hbinds.apart⟩

theorem complete_eq_assign {value : String → Value}
    (h : ∀ p ∈ s, (bound.lookup p.name).or (leftOut p) = some (value p.name)) :
    s.complete bound = s.assign value := by
  rw [complete, assign, ← List.filterMap_eq_map]
  exact List.filterMap_congr fun p hp => by rw [h p hp]; rfl

end Signature

end Strided.Defaults
