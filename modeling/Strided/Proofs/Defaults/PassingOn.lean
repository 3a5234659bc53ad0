import Strided.Proofs.Defaults.Binding

/-!
# Passing arguments on

Arguments that the parameters can hold reach a function unchanged when they are passed on by position
and by keyword (`Signature.passOn_assign`).  The proof has two halves, which meet at what is passed:
by position, the values of the parameters in front, and in place of a tuple what it holds; by
keyword, the values of the others, and in place of a dictionary its entries.  The first half says
that the arguments are taken apart into this, the second that the function puts it together again.
-/

namespace Strided.Defaults

open Arguments

/-! ### Setting arguments of new names -/

theorem Arguments.set_of_not_mem {a : Arguments} {n : String} (h : n ∉ a.names) (v : Value) :
    Arguments.set n v a = a ++ [(n, v)] := by
  induction a with
  | nil => rfl
  | cons e rest ih =>
    have hne : e.1 ≠ n := fun he => h (he ▸ List.mem_cons_self ..)
    rw [Arguments.set, if_neg hne, ih fun hrest => h (List.mem_cons_of_mem _ hrest)]
    rfl

theorem Arguments.update_of_nodup {a entries : Arguments} (h : (a ++ entries).names.Nodup) :
    a.update entries = a ++ entries := by
  induction entries generalizing a with
  | nil => exact (List.append_nil a).symm
  | cons e rest ih =>
    have happend : a ++ e :: rest = (a ++ [e]) ++ rest := List.append_cons a e rest
    have hname : e.1 ∉ a.names := by
      intro hmem
      rw [names_append] at h
      exact (List.nodup_append.1 h).2.2 _ hmem _ (List.mem_cons_self ..) rfl
    calc a.update (e :: rest)
        = (Arguments.set e.1 e.2 a).update rest := rfl
      _ = (a ++ [e]).update rest := by rw [set_of_not_mem hname]
      _ = a ++ e :: rest := by rw [ih (happend ▸ h), happend]

namespace Signature

variable {s front back rest : Signature} {p : Parameter} {extra keywords : Arguments}
  {value : String → Value}

/-! ### Parts of a signature -/

theorem WellFormed.sublist (hs : s.WellFormed) (h : front.Sublist s) : front.WellFormed :=
  ⟨(h.map _).nodup hs.nodup, hs.ordered.sublist h, fun p hp => hs.default_isNone p (h.subset hp)⟩

theorem WellFormed.tail (hs : WellFormed (p :: rest)) : rest.WellFormed :=
  hs.sublist (List.sublist_cons_self p rest)

theorem WellFormed.name_not_mem (hs : WellFormed (p :: rest)) : p.name ∉ rest.map (·.name) :=
  (List.nodup_cons.1 hs.nodup).1

theorem Suits.sublist (hs : s.Suits extra value) (h : front.Sublist s) : front.Suits extra value :=
  ⟨fun p hp => hs.holds p (h.subset hp), hs.nodup, fun p hp => hs.apart p (h.subset hp)⟩

/-- What a parameter holds that gathers nothing is of no matter. -/
theorem Suits.congr (hs : s.Suits extra value) {received : String → Value}
    (h : ∀ p ∈ s, p.kind.gathers → received p.name = value p.name) : s.Suits extra received := by
  refine ⟨fun p hp => ?_, hs.nodup, hs.apart⟩
  by_cases hgathers : p.kind.gathers
  · rw [h p hp hgathers]
    exact hs.holds p hp
  · exact p.holds_of_not_gathers hgathers extra (received p.name)

theorem WellFormed.eq_nil_of_restKeyword (hs : WellFormed (p :: rest))
    (hp : p.kind = .restKeyword) : rest = [] := by
  refine List.eq_nil_iff_forall_not_mem.2 fun q hq => ?_
  have h := List.rel_of_pairwise_cons hs.ordered hq
  rw [hp] at h
  cases h

/-- All that comes after the parameter that gathers positional arguments, or after one that takes
its argument by keyword alone, takes its argument by keyword alone. -/
theorem WellFormed.isByKeyword_of_mem (hs : WellFormed (p :: rest))
    (hp : p.kind = .restPositional ∨ p.kind.isByKeyword) : ∀ q ∈ rest, q.kind.isByKeyword := by
  intro q hq
  have h := List.rel_of_pairwise_cons hs.ordered hq
  cases hkind : p.kind <;> simp_all [ParameterKind.precedes, ParameterKind.isByKeyword]

/-- Nothing that can be passed on by position comes after the parameter that gathers positional
arguments. -/
theorem WellFormed.eq_nil_of_restPositional (hs : WellFormed (p :: rest))
    (hrest : ∀ q ∈ rest, ¬ q.kind.isByKeyword) (hp : p.kind = .restPositional) : rest = [] :=
  List.eq_nil_iff_forall_not_mem.2 fun q hq =>
    hrest q hq (hs.isByKeyword_of_mem (.inl hp) q hq)

theorem WellFormed.exists_split (hs : s.WellFormed) :
    ∃ front back, s = front ++ back ∧ (∀ p ∈ front, ¬ p.kind.isByKeyword) ∧
      ∀ p ∈ back, p.kind.isByKeyword := by
  induction s with
  | nil => exact ⟨[], [], rfl, nofun, nofun⟩
  | cons p rest ih =>
    by_cases hp : p.kind.isByKeyword
    · exact ⟨[], p :: rest, rfl, nofun,
        List.forall_mem_cons.2 ⟨hp, hs.isByKeyword_of_mem (.inr hp)⟩⟩
    · obtain ⟨front, back, rfl, hfront, hback⟩ := ih hs.tail
      exact ⟨p :: front, back, rfl, List.forall_mem_cons.2 ⟨hp, hfront⟩, hback⟩

/-! ### What is passed -/

/-- What is passed on by position for a parameter. -/
def itemsFor (value : String → Value) (p : Parameter) : List Value :=
  match p.kind, value p.name with
  | .restPositional, .tuple items => items
  | _, v => [v]

/-- What is passed on by keyword for a parameter. -/
def keywordsFor (extra : Arguments) (value : String → Value) (p : Parameter) : Arguments :=
  if p.kind = .restKeyword then extra else [(p.name, value p.name)]

/-- Names that are passed on by keyword are those of parameters, or were gathered. -/
theorem mem_names_keywordsFor {n : String}
    (h : n ∈ names (back.flatMap (keywordsFor extra value))) :
    n ∈ back.map (·.name) ∨ n ∈ extra.names := by
  obtain ⟨e, he, rfl⟩ := List.mem_map.1 h
  obtain ⟨p, hp, he⟩ := List.mem_flatMap.1 he
  unfold keywordsFor at he
  split at he
  · exact .inr (List.mem_map_of_mem he)
  · cases List.mem_singleton.1 he
    exact .inl (List.mem_map_of_mem hp)

theorem nodup_names_keywordsFor (hs : back.WellFormed) (hsuits : back.Suits extra value)
    (hback : ∀ p ∈ back, p.kind.isByKeyword) :
    (names (back.flatMap (keywordsFor extra value))).Nodup := by
  induction back with
  | nil => exact List.nodup_nil
  | cons p rest ih =>
    have hsub : rest.Sublist (p :: rest) := List.sublist_cons_self ..
    by_cases hp : p.kind = .restKeyword
    · rw [hs.eq_nil_of_restKeyword hp, List.flatMap_singleton, keywordsFor, if_pos hp]
      exact hsuits.nodup
    · have hnamed : p.kind.isNamed := by
        have h := hback p (List.mem_cons_self ..)
        cases hkind : p.kind <;> simp_all [ParameterKind.isByKeyword, ParameterKind.isNamed]
      rw [List.flatMap_cons, keywordsFor, if_neg hp]
      refine List.nodup_cons.2 ⟨fun hname => ?_, ih hs.tail (hsuits.sublist hsub)
        fun q hq => hback q (List.mem_cons_of_mem p hq)⟩
      rcases mem_names_keywordsFor hname with hname | hname
      · exact hs.name_not_mem hname
      · exact hsuits.apart p (List.mem_cons_self ..) hnamed hname

/-! ### Taking the arguments apart -/

theorem lookup_assign (hp : p ∈ s) : (s.assign value).lookup p.name = some (value p.name) := by
  induction s with
  | nil => cases hp
  | cons q rest ih =>
    rw [assign, List.map_cons, List.lookup_cons]
    cases hname : p.name == q.name with
    | true => rw [eq_of_beq hname]
    | false =>
      have hne : p ≠ q := fun h => by simp [h] at hname
      exact ih ((List.mem_cons.1 hp).resolve_left hne)

theorem isPositional_assign (hp : p ∈ s) :
    isPositional (s.assign value) p = !p.kind.isByKeyword := by
  rw [isPositional, lookup_assign hp, Option.isSome_some, Bool.and_true]

/-- The arguments before the first one that cannot be passed on by position, and the others. -/
theorem split_assign (hfront : ∀ p ∈ front, ¬ p.kind.isByKeyword)
    (hback : ∀ p ∈ back, p.kind.isByKeyword) :
    (front ++ back).takeWhile (isPositional ((front ++ back).assign value)) = front ∧
    (front ++ back).dropWhile (isPositional ((front ++ back).assign value)) = back := by
  have hpos : ∀ p ∈ front, isPositional ((front ++ back).assign value) p := by
    intro p hp
    simpa [isPositional_assign (List.mem_append_left back hp)] using hfront p hp
  rw [List.takeWhile_append_of_pos hpos, List.dropWhile_append_of_pos hpos]
  cases back with
  | nil => exact ⟨List.append_nil front, rfl⟩
  | cons q rest =>
    have hneg : ¬ isPositional ((front ++ q :: rest).assign value) q := by
      simpa [isPositional_assign (List.mem_append_right front (List.mem_cons_self ..))]
        using hback q (List.mem_cons_self ..)
    rw [List.takeWhile_cons_of_neg hneg, List.dropWhile_cons_of_neg hneg]
    exact ⟨List.append_nil front, rfl⟩

theorem positionalOf_assign (hsuits : Suits (front ++ back) extra value)
    (hfront : ∀ p ∈ front, ¬ p.kind.isByKeyword) (hback : ∀ p ∈ back, p.kind.isByKeyword) :
    positionalOf (front ++ back) ((front ++ back).assign value) =
      .ok (front.flatMap (itemsFor value)) := by
  rw [positionalOf, (split_assign hfront hback).1, mapM_eq_ok (g := itemsFor value)]
  · rfl
  · intro p hp
    rw [lookup_assign (List.mem_append_left back hp), Option.getD_some, itemsFor]
    split
    next hkind =>
      obtain ⟨items, hitems⟩ := (hsuits.holds p (List.mem_append_left back hp)).tuple hkind
      rw [hitems, hkind]
      rfl
    next hkind =>
      split
      next h _ => exact absurd h hkind
      next => rfl

theorem gatheredKeywords_gathered (extra : Arguments) :
    gatheredKeywords (gathered extra) = .ok extra := by
  simp [gathered, gatheredKeywords, List.filterMap_map, Value.text?]

theorem foldlM_keywordsFor {f : Arguments → Parameter → Except Fault Arguments}
    (hf : ∀ p ∈ back, ∀ a, (a ++ keywordsFor extra value p).names.Nodup →
      f a p = .ok (a ++ keywordsFor extra value p))
    {a : Arguments} (h : (a ++ back.flatMap (keywordsFor extra value)).names.Nodup) :
    back.foldlM f a = .ok (a ++ back.flatMap (keywordsFor extra value)) := by
  induction back generalizing a with
  | nil => exact congrArg Except.ok (List.append_nil a).symm
  | cons p rest ih =>
    rw [List.flatMap_cons, ← List.append_assoc] at h ⊢
    have hone : (a ++ keywordsFor extra value p).names.Nodup := by
      rw [names_append] at h
      exact (List.nodup_append.1 h).1
    rw [List.foldlM_cons, hf p (List.mem_cons_self ..) a hone]
    exact ih (fun q hq => hf q (List.mem_cons_of_mem p hq)) h

theorem keywordsOf_assign (hs : (front ++ back).WellFormed)
    (hsuits : Suits (front ++ back) extra value)
    (hfront : ∀ p ∈ front, ¬ p.kind.isByKeyword) (hback : ∀ p ∈ back, p.kind.isByKeyword) :
    keywordsOf (front ++ back) ((front ++ back).assign value) =
      .ok (back.flatMap (keywordsFor extra value)) := by
  have hsub : back.Sublist (front ++ back) := List.sublist_append_right front back
  have hnodup := nodup_names_keywordsFor (hs.sublist hsub) (hsuits.sublist hsub) hback
  rw [keywordsOf, (split_assign hfront hback).2]
  refine foldlM_keywordsFor (fun p hp a ha => ?_) hnodup
  have hmem : p ∈ front ++ back := List.mem_append_right front hp
  rw [lookup_assign hmem]
  unfold keywordsFor at ha ⊢
  dsimp only
  split at ha
  next hkind =>
    rw [if_pos hkind, if_pos hkind, (hsuits.holds p hmem).dict hkind, gatheredKeywords_gathered]
    exact congrArg Except.ok (update_of_nodup ha)
  next hkind =>
    rw [if_neg hkind, if_neg hkind, set_of_not_mem]
    intro hname
    rw [names_append] at ha
    exact (List.nodup_append.1 ha).2.2 _ hname _ (List.mem_singleton.2 rfl) rfl

/-! ### Putting them together again -/

theorem receive_of_take {positional positional' : List Value} {keywords' a : Arguments} {v : Value}
    (h : take p positional keywords = .ok (v, positional', keywords'))
    (hrest : rest.receive positional' keywords' = .ok a) :
    receive (p :: rest) positional keywords = .ok ((p.name, v) :: a) := by
  rw [receive, h]
  change (rest.receive positional' keywords' >>= _) = _
  rw [hrest]
  rfl

/-- The parameters in front take what was passed on for them by position. -/
theorem receive_front {a : Arguments} (hs : front.WellFormed)
    (hholds : ∀ p ∈ front, p.Holds extra (value p.name))
    (hfront : ∀ p ∈ front, ¬ p.kind.isByKeyword)
    (hnames : ∀ p ∈ front, p.kind.isNamed → p.name ∉ keywords.names)
    (hback : back.receive [] keywords = .ok a) :
    (front ++ back).receive (front.flatMap (itemsFor value)) keywords =
      .ok (front.assign value ++ a) := by
  induction front with
  | nil => exact hback
  | cons p rest ih =>
    have hrest := fun q hq => hfront q (List.mem_cons_of_mem p hq)
    have htake : take p ((p :: rest).flatMap (itemsFor value)) keywords =
        .ok (value p.name, rest.flatMap (itemsFor value), keywords) := by
      have hkeyword := hfront p (List.mem_cons_self ..)
      rw [List.flatMap_cons]
      cases hkind : p.kind with
      | keywordOnly | restKeyword => simp [hkind, ParameterKind.isByKeyword] at hkeyword
      | positionalOnly => simp [take, itemsFor, hkind]
      | positionalOrKeyword =>
        have hname : keywords.lookup p.name = none :=
          not_mem_names.1 (hnames p (List.mem_cons_self ..) (by simp [hkind, ParameterKind.isNamed]))
        simp [take, itemsFor, hkind, hname]
      | restPositional =>
        obtain ⟨items, hitems⟩ := (hholds p (List.mem_cons_self ..)).tuple hkind
        rw [hs.eq_nil_of_restPositional hrest hkind]
        simp [take, itemsFor, hkind, hitems]
    exact receive_of_take htake (ih hs.tail
      (fun q hq => hholds q (List.mem_cons_of_mem p hq)) hrest
      fun q hq => hnames q (List.mem_cons_of_mem p hq))

theorem receive_back (hs : back.WellFormed) (hsuits : back.Suits extra value)
    (hback : ∀ p ∈ back, p.kind.isByKeyword) :
    back.receive [] (back.flatMap (keywordsFor extra value)) = .ok (back.assign value) := by
  induction back with
  | nil => rfl
  | cons p rest ih =>
    have hsub : rest.Sublist (p :: rest) := List.sublist_cons_self ..
    have hnodup := nodup_names_keywordsFor hs hsuits hback
    have htake : take p [] ((p :: rest).flatMap (keywordsFor extra value)) =
        .ok (value p.name, [], rest.flatMap (keywordsFor extra value)) := by
      have hkeyword := hback p (List.mem_cons_self ..)
      rw [List.flatMap_cons] at hnodup ⊢
      cases hkind : p.kind with
      | positionalOnly | positionalOrKeyword | restPositional =>
        simp [hkind, ParameterKind.isByKeyword] at hkeyword
      | restKeyword =>
        rw [hs.eq_nil_of_restKeyword hkind, (hsuits.holds p (List.mem_cons_self ..)).dict hkind]
        simp [take, keywordsFor, hkind]
      | keywordOnly =>
        rw [keywordsFor, if_neg (by simp [hkind])] at hnodup ⊢
        have hothers : p.name ∉ names (rest.flatMap (keywordsFor extra value)) :=
          (List.nodup_cons.1 hnodup).1
        have hfilter : (rest.flatMap (keywordsFor extra value)).filter (·.1 != p.name) =
            rest.flatMap (keywordsFor extra value) := by
          refine List.filter_eq_self.2 fun e he => bne_iff_ne.2 fun hname => hothers ?_
          exact hname ▸ List.mem_map_of_mem he
        simp [take, hkind, hfilter]
    exact receive_of_take htake (ih hs.tail (hsuits.sublist hsub)
      fun q hq => hback q (List.mem_cons_of_mem p hq))

/-- **Arguments that the parameters can hold are passed on unchanged.** -/
theorem passOn_assign (hs : s.WellFormed) (hsuits : s.Suits extra value) :
    s.passOn (s.assign value) = .ok (s.assign value) := by
  obtain ⟨front, back, rfl, hfront, hback⟩ := hs.exists_split
  have hsubfront : front.Sublist (front ++ back) := List.sublist_append_left front back
  have hsubback : back.Sublist (front ++ back) := List.sublist_append_right front back
  -- no keyword argument is for a parameter in front
  have hnames : ∀ p ∈ front, p.kind.isNamed →
      p.name ∉ names (back.flatMap (keywordsFor extra value)) := by
    intro p hp hnamed hname
    rcases mem_names_keywordsFor hname with hname | hname
    · obtain ⟨q, hq, hqname⟩ := List.mem_map.1 hname
      have hpq : q = p := hs.eq_of_name_eq (hsubback.subset hq) (hsubfront.subset hp) hqname
      exact hfront p hp (hpq ▸ hback q hq)
    · exact hsuits.apart p (hsubfront.subset hp) hnamed hname
  rw [passOn, positionalOf_assign hsuits hfront hback, keywordsOf_assign hs hsuits hfront hback]
  change (front ++ back).receive _ _ = _
  rw [receive_front (hs.sublist hsubfront) (hsuits.sublist hsubfront).holds hfront hnames
    (receive_back (hs.sublist hsubback) (hsuits.sublist hsubback) hback), assign, assign, assign,
    List.map_append]

end Signature

end Strided.Defaults
