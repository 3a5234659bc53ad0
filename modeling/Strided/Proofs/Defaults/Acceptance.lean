import Strided.Proofs.Defaults.PassingOn

/-!
# Which calls can be bound

A function takes a call by itself (`Signature.receive`), and a decorated one binds its arguments
first (`Signature.bind`).  Whatever the function takes can be bound, and every parameter is bound to
what it receives (`exists_bind_of_receive`), with one exception: where a parameter that takes its
argument by position alone is left to its default, no keyword argument may have its name, though one
that gathers keyword arguments would take it (`apart_of_bind`).

Both go through the parameters in order.  The positional arguments are taken on the way in the same
manner; behind the last of them `bindByKeyword` is what is left of binding, and `Completes` is what
its steps keep.
-/

namespace Strided.Defaults.Signature

open Arguments

variable {s : Signature} {p : Parameter} {v : Value} {positional values : List Value}
  {keywords bound passed : Arguments}

theorem WellFormed.ne_positionalOnly_of_mem (hs : WellFormed (p :: s))
    (hp : p.kind = .restPositional) : ∀ q ∈ s, q.kind ≠ .positionalOnly := by
  intro q hq hkind
  have hkeyword := hs.isByKeyword_of_mem (.inl hp) q hq
  rw [hkind] at hkeyword
  cases hkeyword

/-! ### Parts of binding -/

def bindByKeyword (s : Signature) (keywords : Arguments) : Except Fault Arguments := do
  let (second, extra) ← bindKeywords s keywords
  match extra, s.find? (·.kind = .restKeyword) with
  | [], _ => .ok second
  | extra, some p => .ok (second ++ [(p.name, gathered extra)])
  | (k, _) :: _, none => .error (.unexpectedKeyword k)

theorem bind_eq (s : Signature) (positional : List Value) (keywords : Arguments) :
    s.bind positional keywords =
      bindPositional keywords s positional >>= fun r =>
        (r.1 ++ ·) <$> bindByKeyword r.2 keywords := by
  rw [bind]
  cases bindPositional keywords s positional with
  | error e => rfl
  | ok r =>
    obtain ⟨first, left⟩ := r
    change (bindKeywords left keywords >>= _) = (first ++ ·) <$> bindByKeyword left keywords
    rw [bindByKeyword, map_bind]
    congr 1
    funext r
    obtain ⟨second, extra⟩ := r
    cases extra with
    | nil => rfl
    | cons e rest =>
      cases left.find? (·.kind = .restKeyword) with
      | none => rfl
      | some p => exact congrArg Except.ok (List.append_assoc ..)

theorem bind_cons (hp : p.kind = .positionalOnly ∨
    p.kind = .positionalOrKeyword ∧ keywords.lookup p.name = none) :
    bind (p :: s) (v :: values) keywords = ((p.name, v) :: ·) <$> s.bind values keywords := by
  have hfirst : bindPositional keywords (p :: s) (v :: values) =
      bindPositional keywords s values >>= fun r => .ok ((p.name, v) :: r.1, r.2) := by
    rcases hp with hp | ⟨hp, hname⟩
    · simp [bindPositional, hp]
    · simp [bindPositional, hp, hname]
  rw [bind_eq, bind_eq, hfirst, map_bind, bind_assoc]
  congr 1
  funext r
  obtain ⟨first, left⟩ := r
  change ((p.name, v) :: first ++ ·) <$> bindByKeyword left keywords = _
  rw [Functor.map_map]
  rfl

theorem bind_cons_of_restPositional (hp : p.kind = .restPositional) :
    bind (p :: s) (v :: values) keywords =
      ((p.name, .tuple (v :: values)) :: ·) <$> s.bindByKeyword keywords := by
  have hfirst : bindPositional keywords (p :: s) (v :: values) =
      .ok ([(p.name, .tuple (v :: values))], s) := by
    simp [bindPositional, hp]
  rw [bind_eq, hfirst]
  rfl

theorem find?_restKeyword_cons (hp : p.kind ≠ .restKeyword) :
    (p :: s).find? (·.kind = .restKeyword) = s.find? (·.kind = .restKeyword) :=
  List.find?_cons_of_neg (by simp [hp])

theorem bindByKeyword_cons_of_restPositional (hp : p.kind = .restPositional) :
    bindByKeyword (p :: s) keywords = s.bindByKeyword keywords := by
  have hfind := find?_restKeyword_cons (p := p) (s := s) (by simp [hp])
  simp only [bindByKeyword, bindKeywords, hp, hfind]

theorem bindByKeyword_cons_of_default (hp : ¬ p.kind.gathers)
    (hname : keywords.lookup p.name = none) (hdefault : p.default.isSome) :
    bindByKeyword (p :: s) keywords = s.bindByKeyword keywords := by
  have hsecond : bindKeywords (p :: s) keywords = bindKeywords s keywords := by
    cases hk : p.kind <;> simp [bindKeywords, hk, hname, Option.isSome_iff_ne_none.1 hdefault]
  simp only [bindByKeyword, hsecond, find?_restKeyword_cons fun hk => hp (hk ▸ rfl)]

theorem bindByKeyword_cons (hp : p.kind.isNamed) (hname : keywords.lookup p.name = some v) :
    bindByKeyword (p :: s) keywords =
      ((p.name, v) :: ·) <$> s.bindByKeyword (keywords.filter (·.1 != p.name)) := by
  have hkind : p.kind ≠ .restKeyword := fun hk => by simp [hk, ParameterKind.isNamed] at hp
  have hsecond : bindKeywords (p :: s) keywords =
      bindKeywords s (keywords.filter (·.1 != p.name)) >>= fun r =>
        .ok ((p.name, v) :: r.1, r.2) := by
    rw [bindKeywords]
    cases hk : p.kind <;> simp_all [ParameterKind.isNamed]
  rw [bindByKeyword, bindByKeyword, hsecond, find?_restKeyword_cons hkind, map_bind, bind_assoc]
  congr 1
  funext r
  obtain ⟨second, extra⟩ := r
  cases extra with
  | nil => rfl
  | cons e rest => cases s.find? (·.kind = .restKeyword) <;> rfl

theorem bindByKeyword_of_restKeyword (hp : p.kind = .restKeyword) :
    bindByKeyword [p] keywords =
      .ok (if keywords = [] then [] else [(p.name, gathered keywords)]) := by
  have hsecond : bindKeywords [p] keywords = .ok ([], keywords) := by
    simp [bindKeywords, hp]
  have hfind : [p].find? (·.kind = .restKeyword) = some p := List.find?_cons_of_pos (by simp [hp])
  rw [bindByKeyword, hsecond, hfind]
  cases keywords <;> rfl

/-! ### What the steps keep -/

/-- With what is left out filled in, the arguments bound are those received. -/
structure Completes (s : Signature) (bound passed : Arguments) : Prop where
  eq : s.complete bound = passed
  names : ∀ n ∈ bound.names, n ∈ s.map (·.name)

namespace Completes

theorem nil : Completes [] [] [] := ⟨rfl, nofun⟩

theorem cons (h : s.Completes bound passed) (hp : p.name ∉ s.map (·.name)) (v : Value) :
    Completes (p :: s) ((p.name, v) :: bound) ((p.name, v) :: passed) := by
  refine ⟨?_, List.forall_mem_cons.2 ⟨List.mem_cons_self .., fun n hn => ?_⟩⟩
  · have hrest : ∀ q ∈ s,
        ((((p.name, v) :: bound).lookup q.name).or (leftOut q)).map (fun w => (q.name, w)) =
          ((bound.lookup q.name).or (leftOut q)).map (fun w => (q.name, w)) := by
      intro q hq
      have hne : (q.name == p.name) = false :=
        beq_eq_false_iff_ne.2 fun hname => hp (hname ▸ List.mem_map_of_mem hq)
      rw [List.lookup_cons, hne]
    rw [complete, List.filterMap_cons, List.lookup_cons, beq_self_eq_true]
    exact congrArg _ ((List.filterMap_congr hrest).trans h.eq)
  · exact List.mem_cons_of_mem _ (h.names n hn)

theorem skip (h : s.Completes bound passed) (hp : p.name ∉ s.map (·.name))
    (hv : leftOut p = some v) : Completes (p :: s) bound ((p.name, v) :: passed) := by
  refine ⟨?_, fun n hn => List.mem_cons_of_mem _ (h.names n hn)⟩
  have hnone : bound.lookup p.name = none := not_mem_names.1 fun hn => hp (h.names _ hn)
  rw [complete, List.filterMap_cons, hnone, hv]
  exact congrArg _ h.eq

end Completes

theorem exists_of_receive_cons
    (h : receive (p :: s) positional keywords = .ok passed) :
    ∃ v values left others, take p positional keywords = .ok (v, values, left) ∧
      s.receive values left = .ok others ∧ passed = (p.name, v) :: others := by
  obtain ⟨⟨v, values, left⟩, htake, h⟩ := exists_of_bind_eq_ok h
  obtain ⟨others, hothers, h⟩ := exists_of_bind_eq_ok h
  exact ⟨v, values, left, others, htake, hothers, (Except.ok.inj h).symm⟩

/-- What a parameter takes once the positional arguments are used up. -/
theorem take_nil_cases {left : Arguments} (hp : ¬ p.kind.gathers)
    (hapart : p.kind = .positionalOnly → p.name ∉ keywords.names)
    (h : take p [] keywords = .ok (v, values, left)) :
    values = [] ∧
      (p.kind.isNamed ∧ keywords.lookup p.name = some v ∧ left = keywords.filter (·.1 != p.name) ∨
        keywords.lookup p.name = none ∧ p.default = some v ∧ left = keywords) := by
  cases hname : keywords.lookup p.name with
  | some w =>
    have hkind : p.kind ≠ .positionalOnly :=
      fun hkind => hapart hkind (mem_names.2 (hname ▸ rfl))
    cases hk : p.kind <;> simp_all [take, ParameterKind.gathers, ParameterKind.isNamed]
  | none =>
    cases hdefault : p.default <;>
      cases hk : p.kind <;> simp_all [take, ParameterKind.gathers]

/-! ### What can be bound -/

/-- What is received once the positional arguments are used up can be bound. -/
theorem exists_bindByKeyword (hs : s.WellFormed)
    (hapart : ∀ p ∈ s, p.kind = .positionalOnly → p.name ∉ keywords.names)
    (h : s.receive [] keywords = .ok passed) :
    ∃ bound, s.bindByKeyword keywords = .ok bound ∧ s.Completes bound passed := by
  induction s generalizing keywords passed with
  | nil =>
    cases keywords with
    | nil =>
      cases h
      exact ⟨[], rfl, .nil⟩
    | cons e rest => cases h
  | cons p s ih =>
    have hname := hs.name_not_mem
    obtain ⟨hpapart, hapart⟩ := List.forall_mem_cons.1 hapart
    obtain ⟨v, values, left, others, htake, hothers, rfl⟩ := exists_of_receive_cons h
    by_cases hgathers : p.kind.gathers
    · have hdefault : p.default = none :=
        Option.isNone_iff_eq_none.1 (hs.default_isNone p (List.mem_cons_self ..) hgathers)
      cases hp : p.kind with
      | positionalOnly | positionalOrKeyword | keywordOnly =>
        simp [hp, ParameterKind.gathers] at hgathers
      | restPositional =>
        simp only [take, hp] at htake
        cases htake
        obtain ⟨bound, hbound, hcompletes⟩ := ih hs.tail hapart hothers
        refine ⟨bound, ?_, hcompletes.skip hname (by rw [leftOut, hdefault, hp])⟩
        rw [bindByKeyword_cons_of_restPositional hp, hbound]
      | restKeyword =>
        simp only [take, hp] at htake
        cases htake
        obtain rfl := hs.eq_nil_of_restKeyword hp
        cases hothers
        refine ⟨_, bindByKeyword_of_restKeyword hp, ?_⟩
        cases keywords with
        | nil => exact Completes.nil.skip hname (by rw [leftOut, hdefault, hp]; rfl)
        | cons e rest => exact Completes.nil.cons hname _
    · obtain ⟨rfl, ⟨hnamed, hv, rfl⟩ | ⟨hv, hdefault, rfl⟩⟩ := take_nil_cases hgathers hpapart htake
      · have hapart' : ∀ q ∈ s, q.kind = .positionalOnly →
            q.name ∉ names (keywords.filter (·.1 != p.name)) := fun q hq hkind hn =>
          hapart q hq hkind ((List.filter_sublist.map _).mem hn)
        obtain ⟨bound, hbound, hcompletes⟩ := ih hs.tail hapart' hothers
        refine ⟨(p.name, v) :: bound, ?_, hcompletes.cons hname v⟩
        rw [bindByKeyword_cons hnamed hv, hbound]
        rfl
      · obtain ⟨bound, hbound, hcompletes⟩ := ih hs.tail hapart hothers
        refine ⟨bound, ?_, hcompletes.skip hname (by rw [leftOut, hdefault])⟩
        rw [bindByKeyword_cons_of_default hgathers hv (hdefault ▸ rfl), hbound]

theorem bind_nil (hapart : ∀ p ∈ s, p.kind = .positionalOnly → p.name ∉ keywords.names)
    (h : s.bindByKeyword keywords = .ok bound) : s.bind [] keywords = .ok bound := by
  cases s with
  | nil =>
    rw [bind_eq, ← h]
    exact id_map (bindByKeyword [] keywords)
  | cons p s =>
    by_cases hrest : p.kind = .restPositional
    · have hfirst : bindPositional keywords (p :: s) [] = .ok ([], s) := by
        rw [bindPositional, if_pos hrest]
      rw [bind_eq, hfirst, ← h, bindByKeyword_cons_of_restPositional hrest]
      exact id_map (bindByKeyword s keywords)
    · have hfirst : bindPositional keywords (p :: s) [] = .ok ([], p :: s) := by
        rw [bindPositional, if_neg hrest]
        split
        next hname =>
          exact if_neg fun hkind => hapart p (List.mem_cons_self ..) hkind (mem_names.2 hname)
        next hname =>
          refine if_pos (or_iff_not_imp_left.2 fun hkind => ?_)
          by_contra hdefault
          -- the keyword arguments could not be bound without this one
          obtain ⟨r, hr, -⟩ := exists_of_bind_eq_ok h
          rw [Option.not_isSome_iff_eq_none] at hname hdefault
          cases hk : p.kind with
          | restPositional => exact hrest hk
          | restKeyword => exact hkind hk
          | positionalOnly | positionalOrKeyword | keywordOnly =>
            simp [bindKeywords, hk, hname, hdefault] at hr
      rw [bind_eq, hfirst, ← h]
      exact id_map (bindByKeyword (p :: s) keywords)

/-- Parameters that take their arguments by keyword alone receive no positional arguments. -/
theorem receive_ne_ok_of_isByKeyword (hkeyword : ∀ p ∈ s, p.kind.isByKeyword) :
    s.receive (v :: values) keywords ≠ .ok passed := by
  induction s generalizing keywords passed with
  | nil => nofun
  | cons p s ih =>
    intro h
    obtain ⟨w, values', left, others, htake, hothers, -⟩ := exists_of_receive_cons h
    have hvalues : values' = v :: values := by
      have hp := hkeyword p (List.mem_cons_self ..)
      cases hname : keywords.lookup p.name <;> cases hdefault : p.default <;>
        cases hk : p.kind <;> simp_all [take, ParameterKind.isByKeyword]
    rw [hvalues] at hothers
    exact ih (fun q hq => hkeyword q (List.mem_cons_of_mem p hq)) hothers

/-- **What a function receives can be bound**, and the arguments bound are those received, unless a
parameter that takes its argument by position alone is left to its default and a keyword argument
has its name. -/
theorem exists_bind_of_receive (hs : s.WellFormed)
    (hapart : ∀ p ∈ s.drop positional.length, p.kind = .positionalOnly → p.name ∉ keywords.names)
    (h : s.receive positional keywords = .ok passed) :
    ∃ bound, s.bind positional keywords = .ok bound ∧ s.Completes bound passed := by
  induction s generalizing positional passed with
  | nil =>
    cases positional with
    | nil =>
      obtain ⟨bound, hbound, hcompletes⟩ := exists_bindByKeyword hs nofun h
      exact ⟨bound, bind_nil nofun hbound, hcompletes⟩
    | cons v values => cases h
  | cons p s ih =>
    cases positional with
    | nil =>
      obtain ⟨bound, hbound, hcompletes⟩ := exists_bindByKeyword hs hapart h
      exact ⟨bound, bind_nil hapart hbound, hcompletes⟩
    | cons v values =>
      have hname := hs.name_not_mem
      have hnone (hk : p.kind.isByKeyword) : False :=
        receive_ne_ok_of_isByKeyword
          (List.forall_mem_cons.2 ⟨hk, hs.isByKeyword_of_mem (.inr hk)⟩) h
      -- a parameter that takes the first positional argument
      have hone (hp : p.kind = .positionalOnly ∨
          p.kind = .positionalOrKeyword ∧ keywords.lookup p.name = none) :
          ∃ bound, bind (p :: s) (v :: values) keywords = .ok bound ∧
            Completes (p :: s) bound passed := by
        obtain ⟨w, values', left, others, htake, hothers, rfl⟩ := exists_of_receive_cons h
        obtain ⟨rfl, rfl, rfl⟩ : v = w ∧ values = values' ∧ keywords = left := by
          rcases hp with hp | ⟨hp, hlookup⟩ <;> simp_all [take]
        obtain ⟨bound, hbound, hcompletes⟩ := ih hs.tail hapart hothers
        refine ⟨(p.name, v) :: bound, ?_, hcompletes.cons hname v⟩
        rw [bind_cons hp, hbound]
        rfl
      cases hp : p.kind with
      | keywordOnly | restKeyword => exact (hnone (hp ▸ rfl)).elim
      | positionalOnly => exact hone (.inl hp)
      | positionalOrKeyword =>
        refine hone (.inr ⟨hp, ?_⟩)
        obtain ⟨w, values', left, others, htake, -, -⟩ := exists_of_receive_cons h
        cases hlookup : keywords.lookup p.name <;> simp_all [take]
      | restPositional =>
        obtain ⟨w, values', left, others, htake, hothers, rfl⟩ := exists_of_receive_cons h
        simp only [take, hp] at htake
        cases htake
        have hlast : ∀ q ∈ s, q.kind = .positionalOnly → q.name ∉ keywords.names :=
          fun q hq hkind => absurd hkind (hs.ne_positionalOnly_of_mem hp q hq)
        obtain ⟨bound, hbound, hcompletes⟩ := exists_bindByKeyword hs.tail hlast hothers
        refine ⟨(p.name, .tuple (v :: values)) :: bound, ?_, hcompletes.cons hname _⟩
        rw [bind_cons_of_restPositional hp, hbound]
        rfl

/-! ### What cannot be bound -/

/-- No keyword argument has the name of a parameter that takes its argument by position alone. -/
theorem apart_of_bindKeywords {r : Arguments × Arguments} (hs : s.WellFormed)
    (h : bindKeywords s keywords = .ok r) :
    ∀ p ∈ s, p.kind = .positionalOnly → p.name ∉ keywords.names := by
  induction s generalizing keywords r with
  | nil => nofun
  | cons p s ih =>
    rw [bindKeywords] at h
    split at h
    next hk => exact List.forall_mem_cons.2 ⟨by simp [hk], ih hs.tail h⟩
    next hk => exact List.forall_mem_cons.2 ⟨by simp [hk], ih hs.tail h⟩
    next =>
      split at h
      next v hv =>
        split at h
        · cases h
        next hkind =>
          obtain ⟨r, hr, -⟩ := exists_of_bind_eq_ok h
          refine List.forall_mem_cons.2
            ⟨fun hk => absurd hk hkind, fun q hq hk hn => ih hs.tail hr q hq hk ?_⟩
          -- the argument that the first parameter takes is that of another name
          obtain ⟨e, he, hname⟩ := List.mem_map.1 hn
          have hne : e.1 ≠ p.name := fun h =>
            hs.name_not_mem (List.mem_map.2 ⟨q, hq, hname.symm.trans h⟩)
          exact List.mem_map.2 ⟨e, List.mem_filter.2 ⟨he, bne_iff_ne.2 hne⟩, hname⟩
      next hnone =>
        split at h
        · cases h
        · exact List.forall_mem_cons.2 ⟨fun _ => not_mem_names.2 hnone, ih hs.tail h⟩

/-- **What can be bound has no keyword argument of the name of a parameter that takes its argument
by position alone and is left to its default.** -/
theorem apart_of_bind (hs : s.WellFormed) (h : s.bind positional keywords = .ok bound) :
    ∀ p ∈ s.drop positional.length, p.kind = .positionalOnly → p.name ∉ keywords.names := by
  induction s generalizing positional bound with
  | nil => simp
  | cons p s ih =>
    cases positional with
    | nil =>
      obtain ⟨first, left, second, extra, rest, hfirst, hsecond, -⟩ := bind_cases h
      by_cases hp : p.kind = .restPositional
      · exact List.forall_mem_cons.2
          ⟨by simp [hp], fun q hq hk => absurd hk (hs.ne_positionalOnly_of_mem hp q hq)⟩
      · obtain rfl : p :: s = left := by
          rw [bindPositional, if_neg hp] at hfirst
          split at hfirst <;> split at hfirst <;> cases hfirst <;> rfl
        exact apart_of_bindKeywords hs hsecond
    | cons v values =>
      -- a parameter that takes the first positional argument
      have hone (hp : p.kind = .positionalOnly ∨
          p.kind = .positionalOrKeyword ∧ keywords.lookup p.name = none) :
          ∀ q ∈ s.drop values.length, q.kind = .positionalOnly → q.name ∉ keywords.names := by
        rw [bind_cons hp] at h
        obtain ⟨bound, hbound, -⟩ := map_eq_ok_iff.1 h
        exact ih hs.tail hbound
      cases hp : p.kind with
      | positionalOnly => exact hone (.inl hp)
      | positionalOrKeyword =>
        refine hone (.inr ⟨hp, ?_⟩)
        by_contra hname
        have htwice := Option.isSome_iff_ne_none.2 hname
        simp [bind, bindPositional, hp, htwice, Bind.bind, Except.bind] at h
      | restPositional =>
        exact fun q hq hk =>
          absurd hk (hs.ne_positionalOnly_of_mem hp q (List.mem_of_mem_drop hq))
      | keywordOnly | restKeyword => simp [bind, bindPositional, hp, Bind.bind, Except.bind] at h

end Strided.Defaults.Signature
