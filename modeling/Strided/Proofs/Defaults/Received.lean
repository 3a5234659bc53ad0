import Strided.Proofs.Defaults.Call

/-!
# What a decorated function receives

A call that succeeds gives every parameter its value or the handle of its value
(`Decorated.received_of_call`), whatever parameters are named.

A parameter that gathers arguments may be named too.  What it gathered cannot be read through a
handle, except where it is a dictionary without entries, so that the call either fails or passes on
what was gathered as if the parameter had not been named (`Signature.eq_assign_of_passOn`).
-/

namespace Strided.Defaults

namespace Signature

variable {s : Signature} {extra : Arguments} {value value' : String → Value}

/-! ### Passing on what was gathered -/

/-- Arguments are passed on like others, if they are the same for the parameters that gather none,
and what the others gathered can be read in the same way. -/
theorem passOn_of_imp (hs : s.WellFormed)
    (hsame : ∀ p ∈ s, ¬ p.kind.gathers → value' p.name = value p.name)
    (hitems : ∀ p ∈ s, p.kind = .restPositional → ∀ items,
      gatheredItems (value p.name) = .ok items → gatheredItems (value' p.name) = .ok items)
    (hkeywords : ∀ p ∈ s, p.kind = .restKeyword → ∀ keywords,
      gatheredKeywords (value p.name) = .ok keywords →
      gatheredKeywords (value' p.name) = .ok keywords)
    {arguments : Arguments} (h : s.passOn (s.assign value) = .ok arguments) :
    s.passOn (s.assign value') = .ok arguments := by
  obtain ⟨front, back, rfl, hfront, hback⟩ := hs.exists_split
  obtain ⟨positional, hpositional, h⟩ := exists_of_bind_eq_ok h
  obtain ⟨keywords, hpassed, h⟩ := exists_of_bind_eq_ok h
  have hpositional' : positionalOf (front ++ back) ((front ++ back).assign value') =
      .ok positional := by
    rw [positionalOf, (split_assign hfront hback).1] at hpositional ⊢
    obtain ⟨groups, hgroups, hflatten⟩ := exists_of_bind_eq_ok hpositional
    rw [mapM_of_imp (fun p hp items hitem => ?_) hgroups]
    · exact hflatten
    have hmem : p ∈ front ++ back := List.mem_append_left back hp
    rw [lookup_assign hmem, Option.getD_some] at hitem ⊢
    by_cases hkind : p.kind = .restPositional
    · rw [if_pos hkind] at hitem ⊢
      exact hitems p hmem hkind items hitem
    · have hgathers : ¬ p.kind.gathers := by
        have hpositional := hfront p hp
        cases hk : p.kind <;> simp_all [ParameterKind.gathers, ParameterKind.isByKeyword]
      rw [if_neg hkind] at hitem ⊢
      rw [hsame p hmem hgathers]
      exact hitem
  have hpassed' : keywordsOf (front ++ back) ((front ++ back).assign value') = .ok keywords := by
    rw [keywordsOf, (split_assign hfront hback).2] at hpassed ⊢
    refine foldlM_of_imp (fun p hp a b hab => ?_) hpassed
    have hmem : p ∈ front ++ back := List.mem_append_right front hp
    rw [lookup_assign hmem] at hab ⊢
    by_cases hkind : p.kind = .restKeyword
    · simp only [if_pos hkind] at hab ⊢
      obtain ⟨more, hmore, hb⟩ := map_eq_ok_iff.1 hab
      exact map_eq_ok_iff.2 ⟨more, hkeywords p hmem hkind more hmore, hb⟩
    · have hgathers : ¬ p.kind.gathers := by
        have hkeyword := hback p hp
        cases hk : p.kind <;> simp_all [ParameterKind.gathers, ParameterKind.isByKeyword]
      simp only [if_neg hkind] at hab ⊢
      rw [hsame p hmem hgathers]
      exact hab
  rw [passOn, hpositional', hpassed']
  exact h

theorem gatheredItems_handle_ne_ok (variant : Variant) (v : Value) (items : List Value) :
    gatheredItems (.handle variant v) ≠ .ok items := nofun

/-- Keyword arguments that were gathered can be passed on in a handle only if there are none. -/
theorem gatheredKeywords_of_handle {variant : Variant} {keywords : Arguments}
    (h : gatheredKeywords (.handle variant (gathered extra)) = .ok keywords) :
    gatheredKeywords (gathered extra) = .ok keywords := by
  cases extra with
  | nil =>
    cases h
    rfl
  | cons e rest => cases h

/-- Arguments of which some are in handles, if they can be passed on at all, are passed on unchanged,
except that what was gathered is no longer in a handle. -/
theorem eq_assign_of_passOn (hs : s.WellFormed) (hsuits : s.Suits extra value)
    {replaced received : String → Value}
    (hgathered : ∀ p ∈ s, p.kind.gathers → replaced p.name = value p.name ∨
      ∃ variant, replaced p.name = .handle variant (value p.name))
    (hreceived : ∀ p ∈ s, received p.name = if p.kind.gathers then value p.name else replaced p.name)
    {arguments : Arguments} (h : s.passOn (s.assign replaced) = .ok arguments) :
    arguments = s.assign received := by
  have hkept : ∀ p ∈ s, p.kind.gathers → received p.name = value p.name := by
    intro p hp hgathers
    rw [hreceived p hp, if_pos hgathers]
  have hsame : ∀ p ∈ s, ¬ p.kind.gathers → received p.name = replaced p.name := by
    intro p hp hgathers
    rw [hreceived p hp, if_neg hgathers]
  have hitems : ∀ p ∈ s, p.kind = .restPositional → ∀ items,
      gatheredItems (replaced p.name) = .ok items → gatheredItems (received p.name) = .ok items := by
    intro p hp hkind items hitem
    rw [hkept p hp (hkind ▸ rfl)]
    rcases hgathered p hp (hkind ▸ rfl) with hr | ⟨variant, hr⟩
    · rwa [hr] at hitem
    · rw [hr] at hitem
      exact absurd hitem (gatheredItems_handle_ne_ok variant _ items)
  have hkeywords : ∀ p ∈ s, p.kind = .restKeyword → ∀ keywords,
      gatheredKeywords (replaced p.name) = .ok keywords →
      gatheredKeywords (received p.name) = .ok keywords := by
    intro p hp hkind keywords hkeyword
    rw [hkept p hp (hkind ▸ rfl)]
    rcases hgathered p hp (hkind ▸ rfl) with hr | ⟨variant, hr⟩
    · rwa [hr] at hkeyword
    · rw [hr, (hsuits.holds p hp).dict hkind] at hkeyword
      rw [(hsuits.holds p hp).dict hkind]
      exact gatheredKeywords_of_handle hkeyword
  have hpass : s.passOn (s.assign received) = .ok arguments :=
    passOn_of_imp hs hsame hitems hkeywords h
  rw [passOn_assign hs (hsuits.congr hkept)] at hpass
  exact (Except.ok.inj hpass).symm

theorem unwrap_of_holds {p : Parameter} {v : Value} (h : p.Holds extra v) (hp : p.kind.gathers) :
    Handle.unwrap v = v ∧ v ≠ .none := by
  cases hkind : p.kind with
  | positionalOnly | positionalOrKeyword | keywordOnly => simp [hkind, ParameterKind.gathers] at hp
  | restPositional =>
    obtain ⟨items, rfl⟩ := h.tuple hkind
    refine ⟨rfl, fun hnone => ?_⟩
    cases hnone
  | restKeyword =>
    rw [h.dict hkind, gathered]
    refine ⟨rfl, fun hnone => ?_⟩
    cases hnone

theorem toValue_of_load {p : Parameter} {v : Value} (hholds : p.Holds extra v) (hp : p.kind.gathers)
    {c : Context} {t : Stacks} {h : Handle}
    (hload : (c.load v t).outcome = .ok (some h)) : h.toValue = .handle .explicit v := by
  obtain ⟨hunwrap, hgiven⟩ := unwrap_of_holds hholds hp
  rw [(Context.eq_explicit_of_resolve (hunwrap.symm ▸ hgiven)
    (Context.outcome_load_eq_some_iff.1 hload)).2, hunwrap]
  rfl

end Signature

namespace Decorated

open Signature

variable {f : Function} {contexts : List (String × Context)} {positional : List Value}
  {keywords bound arguments : Arguments} {s : Stacks}

/-! ### Calls that succeed -/

/-- **What a function receives in a call that succeeds.**  Let `value` be what was bound to each
parameter, or else what it is given if nothing is.  Every named parameter that gathers no arguments
receives the handle of its value, and every other parameter its value. -/
theorem received_of_call (hf : f.signature.WellFormed) (hcontexts : (contexts.map (·.1)).Nodup)
    (hnames : ∀ e ∈ contexts, e.1 ∈ f.signature.map (·.name)) (hkeywords : keywords.names.Nodup)
    (hbound : f.signature.bind positional keywords = .ok bound)
    (h : (call ⟨f, contexts⟩ positional keywords s).outcome = .ok arguments) :
    ∃ value received : String → Value,
      (∀ p ∈ f.signature, (bound.lookup p.name).or (leftOut p) = some (value p.name)) ∧
      arguments = f.signature.assign received ∧
      (∀ p ∈ f.signature, ¬ p.kind.gathers → ∀ c, (p.name, c) ∈ contexts →
        ∃ h : Handle, (c.load (value p.name) s).outcome = .ok (some h) ∧
          received p.name = h.toValue) ∧
      ∀ p ∈ f.signature, p.kind.gathers ∨ p.name ∉ contexts.map (·.1) →
        received p.name = value p.name := by
  obtain ⟨value, extra, hvalue, hsuits⟩ := suits_of_bind hf hkeywords hbound
  have hself : receiverKeyword ∉ keywords.names := by
    intro hself
    rw [call, if_pos (Arguments.mem_names.1 hself)] at h
    cases h
  rw [call_eq hself hbound, complete_eq_assign hvalue] at h
  have hloads : ∀ e ∈ contexts, e.2.Loads (value e.1) s := by
    by_contra hloads
    obtain ⟨_, _, _, _, e, -, -, -, hresolve, -, -⟩ :=
      resolveAll_of_not_loads f.name hf.nodup hcontexts hnames hloads
    rw [Traced.bind_of_error hresolve] at h
    cases h
  obtain ⟨replaced, hresolve, hhandles, hothers⟩ :=
    resolveAll_of_loads f.name hf.nodup hcontexts hnames hloads
  rw [Traced.bind_of_ok hresolve] at h
  obtain ⟨received, hreceived⟩ := exists_value hf fun p =>
    if p.kind.gathers then value p.name else replaced p.name
  have hgathered : ∀ p ∈ f.signature, p.kind.gathers → replaced p.name = value p.name ∨
      ∃ variant, replaced p.name = .handle variant (value p.name) := by
    intro p hp hgathers
    by_cases hname : p.name ∈ contexts.map (·.1)
    · obtain ⟨⟨n, c⟩, he, hpe⟩ := List.mem_map.1 hname
      obtain ⟨h, hload, hh⟩ := hhandles _ he
      change n = p.name at hpe
      subst hpe
      exact .inr ⟨.explicit, hh.trans (toValue_of_load (hsuits.holds p hp) hgathers hload)⟩
    · exact .inl (hothers p.name hname)
  refine ⟨value, received, hvalue, eq_assign_of_passOn hf hsuits hgathered hreceived h,
    fun p hp hgathers c hc => ?_, fun p hp hor => ?_⟩
  · obtain ⟨h, hload, hh⟩ := hhandles _ hc
    rw [hreceived p hp, if_neg hgathers]
    exact ⟨h, hload, hh⟩
  · rw [hreceived p hp]
    by_cases hgathers : p.kind.gathers
    · rw [if_pos hgathers]
    · rw [if_neg hgathers]
      exact hothers p.name (hor.resolve_left hgathers)

end Decorated

end Strided.Defaults
