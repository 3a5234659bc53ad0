import Strided.Proofs.Defaults.Acceptance
import Strided.Proofs.Defaults.Settled

/-!
# Which calls get through a decoration

A decorated function stands for the function inside, and so it should take the calls that the
function takes by itself.  `Decorated.GetsThrough` says what it takes for such a call to reach the
function, and `Decorated.call_gets_through` that this is exact: if the values of the named
parameters load, then a call that meets the conditions runs the function once, and any other is
refused with a type error, without running it.  `Decorated.calls_lost` has a call for each of the
conditions.

The call is made in three steps, each of which asks for something.  The decorated function takes the
arguments first, and has a name for itself; then they are bound to the parameters, which
`Acceptance` is about; and at last they are passed on, where what a parameter gathered has to be
read again (`Signature.exists_passOn_iff`).  All that can go wrong in any of the steps is a type
error.
-/

namespace Strided.Defaults

/-! ### Type errors -/

/-- If the computation fails, then with a type error. -/
def FailsByType {α : Type} (x : Except Fault α) : Prop := ∀ e, x = .error e → e.kind = .type

namespace FailsByType

variable {α β : Type}

theorem ok (a : α) : FailsByType (.ok a) := nofun

theorem error {e : Fault} (h : e.kind = .type) : FailsByType (.error e : Except Fault α) := by
  intro e' he
  cases he
  exact h

theorem bind {x : Except Fault α} {f : α → Except Fault β} (hx : FailsByType x)
    (hf : ∀ a, FailsByType (f a)) : FailsByType (x >>= f) := by
  cases x with
  | error e => exact error (hx e rfl)
  | ok a => exact hf a

theorem map {x : Except Fault α} (hx : FailsByType x) (f : α → β) : FailsByType (f <$> x) := by
  cases x with
  | error e => exact error (hx e rfl)
  | ok a => exact ok (f a)

theorem mapM {f : α → Except Fault β} (hf : ∀ a, FailsByType (f a)) (l : List α) :
    FailsByType (l.mapM f) := by
  intro e he
  obtain ⟨-, a, -, -, -, ha⟩ := mapM_eq_error_iff.1 he
  exact hf a e ha

theorem foldlM {f : β → α → Except Fault β} (hf : ∀ b a, FailsByType (f b a)) (l : List α) (b : β) :
    FailsByType (l.foldlM f b) := by
  induction l generalizing b with
  | nil => exact ok b
  | cons a rest ih =>
    rw [List.foldlM_cons]
    exact (hf b a).bind ih

end FailsByType

namespace Signature

variable {s : Signature} {value replaced : String → Value} {extra arguments : Arguments}

theorem failsByType_bindPositional (keywords : Arguments) (s : Signature)
    (positional : List Value) : FailsByType (bindPositional keywords s positional) := by
  induction s generalizing positional with
  | nil =>
    cases positional with
    | nil => exact .ok _
    | cons v values => exact .error rfl
  | cons p s ih =>
    cases positional with
    | nil =>
      rw [bindPositional]
      split
      · exact .ok _
      · split
        · split
          · exact .error rfl
          · exact .ok _
        · split
          · exact .ok _
          · exact .error rfl
    | cons v values =>
      rw [bindPositional]
      split
      · exact .error rfl
      · exact .error rfl
      · exact .ok _
      · split
        · exact .error rfl
        · exact (ih values).bind fun _ => .ok _

theorem failsByType_bindKeywords (s : Signature) (keywords : Arguments) :
    FailsByType (bindKeywords s keywords) := by
  induction s generalizing keywords with
  | nil => exact .ok _
  | cons p s ih =>
    rw [bindKeywords]
    split
    · exact ih keywords
    · exact ih keywords
    · split
      · split
        · exact .error rfl
        · exact (ih _).bind fun _ => .ok _
      · split
        · exact .error rfl
        · exact ih keywords

theorem failsByType_bind (s : Signature) (positional : List Value) (keywords : Arguments) :
    FailsByType (s.bind positional keywords) := by
  rw [bind_eq]
  refine (failsByType_bindPositional keywords s positional).bind fun r => .map ?_ _
  refine (failsByType_bindKeywords r.2 keywords).bind fun r' => ?_
  dsimp only
  split
  · exact .ok _
  · exact .ok _
  · exact .error rfl

theorem failsByType_gatheredItems (v : Value) : FailsByType (gatheredItems v) := by
  unfold gatheredItems
  split
  · exact .ok _
  · exact .error rfl

theorem failsByType_gatheredKeywords (v : Value) : FailsByType (gatheredKeywords v) := by
  unfold gatheredKeywords
  split
  · exact .ok _
  · exact .ok _
  · exact .error rfl
  · exact .error rfl

theorem failsByType_take (p : Parameter) (positional : List Value) (keywords : Arguments) :
    FailsByType (take p positional keywords) := by
  unfold take
  split <;> (try split) <;> first | exact .ok _ | exact .error rfl

theorem failsByType_receive (s : Signature) (positional : List Value) (keywords : Arguments) :
    FailsByType (s.receive positional keywords) := by
  induction s generalizing positional keywords with
  | nil =>
    cases positional with
    | cons v values => exact .error rfl
    | nil =>
      cases keywords with
      | nil => exact .ok _
      | cons e rest => exact .error rfl
  | cons p s ih =>
    rw [receive]
    exact (failsByType_take p positional keywords).bind fun _ => (ih _ _).bind fun _ => .ok _

theorem failsByType_passOn (s : Signature) (arguments : Arguments) :
    FailsByType (s.passOn arguments) := by
  refine .bind (.bind (.mapM (fun p => ?_) _) fun _ => .ok _) fun positional =>
    .bind (.foldlM (fun keywords p => ?_) _ _) fun keywords => failsByType_receive s _ _
  · dsimp only
    split
    · exact failsByType_gatheredItems _
    · exact .ok _
  · split
    · exact .ok _
    · split
      · exact (failsByType_gatheredKeywords _).map _
      · exact .ok _

/-! ### Passing on what was gathered -/

theorem readable_of_passOn (hs : s.WellFormed) (h : s.passOn (s.assign value) = .ok arguments) :
    (∀ p ∈ s, p.kind = .restPositional → ∃ items, gatheredItems (value p.name) = .ok items) ∧
    ∀ p ∈ s, p.kind = .restKeyword →
      ∃ keywords, gatheredKeywords (value p.name) = .ok keywords := by
  obtain ⟨front, back, rfl, hfront, hback⟩ := hs.exists_split
  obtain ⟨positional, hpositional, h⟩ := exists_of_bind_eq_ok h
  obtain ⟨keywords, hpassed, -⟩ := exists_of_bind_eq_ok h
  rw [positionalOf, (split_assign hfront hback).1] at hpositional
  rw [keywordsOf, (split_assign hfront hback).2] at hpassed
  refine ⟨fun p hp hkind => ?_, fun p hp hkind => ?_⟩
  · have hmem : p ∈ front := (List.mem_append.1 hp).resolve_right fun hp' => by
      simpa [hkind, ParameterKind.isByKeyword] using hback p hp'
    obtain ⟨groups, hgroups, -⟩ := exists_of_bind_eq_ok hpositional
    obtain ⟨items, -, hitems⟩ := exists_mem_of_mapM hgroups hmem
    rw [if_pos hkind, lookup_assign hp] at hitems
    exact ⟨items, hitems⟩
  · have hmem : p ∈ back := (List.mem_append.1 hp).resolve_left fun hp' => by
      simpa [hkind, ParameterKind.isByKeyword] using hfront p hp'
    obtain ⟨a, b, hab⟩ := exists_of_foldlM hpassed hmem
    simp only [lookup_assign hp, if_pos hkind] at hab
    obtain ⟨keywords, hkeywords, -⟩ := map_eq_ok_iff.1 hab
    exact ⟨keywords, hkeywords⟩

/-- Arguments of which some are in handles can be passed on just if no gathered positional argument
is in a handle, and no gathered keyword argument. -/
theorem exists_passOn_iff (hs : s.WellFormed) (hsuits : s.Suits extra value) {named : List String}
    (hnamed : ∀ p ∈ s, p.kind.gathers → p.name ∈ named →
      ∃ variant, replaced p.name = .handle variant (value p.name))
    (hothers : ∀ p ∈ s, p.name ∉ named → replaced p.name = value p.name) :
    (∃ arguments, s.passOn (s.assign replaced) = .ok arguments) ↔
      (∀ p ∈ s, p.kind = .restPositional → p.name ∉ named) ∧
      ∀ p ∈ s, p.kind = .restKeyword → p.name ∈ named → value p.name = gathered [] := by
  constructor
  · rintro ⟨arguments, h⟩
    obtain ⟨hitems, hkeywords⟩ := readable_of_passOn hs h
    refine ⟨fun p hp hkind hname => ?_, fun p hp hkind hname => ?_⟩
    · obtain ⟨variant, hr⟩ := hnamed p hp (hkind ▸ rfl) hname
      obtain ⟨items, hitem⟩ := hitems p hp hkind
      rw [hr] at hitem
      exact gatheredItems_handle_ne_ok variant _ items hitem
    · obtain ⟨variant, hr⟩ := hnamed p hp (hkind ▸ rfl) hname
      obtain ⟨keywords, hkeyword⟩ := hkeywords p hp hkind
      have hextra := (hsuits.holds p hp).dict hkind
      rw [hr, hextra] at hkeyword
      rw [hextra]
      cases extra with
      | nil => rfl
      | cons e rest => cases hkeyword
  · rintro ⟨hitems, hentries⟩
    obtain ⟨received, hreceived⟩ := exists_value hs fun p =>
      if p.kind.gathers then value p.name else replaced p.name
    have hkept : ∀ p ∈ s, p.kind.gathers → received p.name = value p.name := by
      intro p hp hgathers
      rw [hreceived p hp, if_pos hgathers]
    refine ⟨_, passOn_of_imp hs ?_ ?_ ?_ (passOn_assign hs (hsuits.congr hkept))⟩
    · intro p hp hgathers
      rw [hreceived p hp, if_neg hgathers]
    · intro p hp hkind items hitem
      rwa [hothers p hp (hitems p hp hkind), ← hkept p hp (hkind ▸ rfl)]
    · intro p hp hkind keywords hkeyword
      rw [hkept p hp (hkind ▸ rfl)] at hkeyword
      by_cases hname : p.name ∈ named
      · obtain ⟨variant, hr⟩ := hnamed p hp (hkind ▸ rfl) hname
        rw [hentries p hp hkind hname] at hkeyword hr
        rw [hr]
        exact hkeyword
      · rwa [hothers p hp hname]

end Signature

namespace Decorated

open Signature

variable {f : Function} {contexts : List (String × Context)} {positional : List Value}
  {keywords bound passed : Arguments} {s : Stacks}

/-! ### Calls that the function takes by itself -/

/-- What it takes for a call to get through to the function, where the function would receive
`passed` from it by itself. -/
structure GetsThrough (f : Function) (named : List String) (positional : List Value)
    (keywords passed : Arguments) : Prop where
  /-- The name that a decorated function has for itself is no keyword. -/
  receiver : receiverKeyword ∉ keywords.names
  /-- Nor is that of a parameter that takes its argument by position alone and is left out. -/
  apart : ∀ p ∈ f.signature.drop positional.length, p.kind = .positionalOnly →
    p.name ∉ keywords.names
  /-- The parameter that gathers positional arguments is not resolved. -/
  items : ∀ p ∈ f.signature, p.kind = .restPositional → p.name ∉ named
  /-- If the parameter that gathers keyword arguments is resolved, then it has none to gather. -/
  entries : ∀ p ∈ f.signature, p.kind = .restKeyword → p.name ∈ named →
    passed.lookup p.name = some (gathered [])

theorem exists_outcome_call (hf : f.signature.WellFormed) (hcontexts : (contexts.map (·.1)).Nodup)
    (hnames : ∀ e ∈ contexts, e.1 ∈ f.signature.map (·.name)) (hkeywords : keywords.names.Nodup)
    (hself : receiverKeyword ∉ keywords.names)
    (hbound : f.signature.bind positional keywords = .ok bound)
    (hcompletes : f.signature.Completes bound passed)
    (hloads : ∀ e ∈ contexts, e.2.Loads ((passed.lookup e.1).getD .none) s) :
    ∃ extra value replaced, f.signature.Suits extra value ∧ passed = f.signature.assign value ∧
      (call ⟨f, contexts⟩ positional keywords s).outcome =
        f.signature.passOn (f.signature.assign replaced) ∧
      (∀ p ∈ f.signature, p.kind.gathers → p.name ∈ contexts.map (·.1) →
        ∃ variant, replaced p.name = .handle variant (value p.name)) ∧
      ∀ p ∈ f.signature, p.name ∉ contexts.map (·.1) → replaced p.name = value p.name := by
  obtain ⟨value, extra, hvalue, hsuits⟩ := suits_of_bind hf hkeywords hbound
  have hpassed : passed = f.signature.assign value := by
    rw [← hcompletes.eq, complete_eq_assign hvalue]
  have hloads' : ∀ e ∈ contexts, e.2.Loads (value e.1) s := by
    intro e he
    have h := hloads e he
    rwa [hpassed, getD_lookup_assign (hnames e he)] at h
  obtain ⟨replaced, hresolve, hhandles, hothers⟩ :=
    resolveAll_of_loads f.name hf.nodup hcontexts hnames hloads'
  refine ⟨extra, value, replaced, hsuits, hpassed, ?_, fun p hp hgathers hname => ?_,
    fun p _ hname => hothers p.name hname⟩
  · rw [call_eq hself hbound, complete_eq_assign hvalue, Traced.bind_of_ok hresolve]
    rfl
  · obtain ⟨⟨n, c⟩, he, hpe⟩ := List.mem_map.1 hname
    obtain ⟨h, hload, hh⟩ := hhandles _ he
    change n = p.name at hpe
    subst hpe
    exact ⟨.explicit, hh.trans (toValue_of_load (hsuits.holds p hp) hgathers hload)⟩

/-- A call that the function takes by itself, and whose values load, gets through just if it meets
the conditions. -/
theorem exists_call_iff (hf : f.signature.WellFormed) (hcontexts : (contexts.map (·.1)).Nodup)
    (hnames : ∀ e ∈ contexts, e.1 ∈ f.signature.map (·.name)) (hkeywords : keywords.names.Nodup)
    (hpassed : f.signature.receive positional keywords = .ok passed)
    (hloads : ∀ e ∈ contexts, e.2.Loads ((passed.lookup e.1).getD .none) s) :
    (∃ arguments, (call ⟨f, contexts⟩ positional keywords s).outcome = .ok arguments) ↔
      GetsThrough f (contexts.map (·.1)) positional keywords passed := by
  constructor
  · rintro ⟨arguments, h⟩
    have hself : receiverKeyword ∉ keywords.names := by
      intro hself
      rw [call, if_pos (Arguments.mem_names.1 hself)] at h
      cases h
    cases hbound : f.signature.bind positional keywords with
    | error e =>
      rw [call, if_neg (Arguments.mem_names.not.1 hself), hbound] at h
      cases h
    | ok bound =>
      have hapart := apart_of_bind hf hbound
      obtain ⟨bound', hbound', hcompletes⟩ := exists_bind_of_receive hf hapart hpassed
      obtain ⟨extra, value, replaced, hsuits, rfl, houtcome, hnamed, hothers⟩ :=
        exists_outcome_call hf hcontexts hnames hkeywords hself hbound' hcompletes hloads
      obtain ⟨hitems, hentries⟩ :=
        (exists_passOn_iff hf hsuits hnamed hothers).1 ⟨arguments, houtcome ▸ h⟩
      exact ⟨hself, hapart, hitems, fun p hp hkind hname =>
        (lookup_assign hp).trans (congrArg some (hentries p hp hkind hname))⟩
  · rintro ⟨hself, hapart, hitems, hentries⟩
    obtain ⟨bound, hbound, hcompletes⟩ := exists_bind_of_receive hf hapart hpassed
    obtain ⟨extra, value, replaced, hsuits, rfl, houtcome, hnamed, hothers⟩ :=
      exists_outcome_call hf hcontexts hnames hkeywords hself hbound hcompletes hloads
    rw [houtcome]
    refine (exists_passOn_iff hf hsuits hnamed hothers).2 ⟨hitems, fun p hp hkind hname => ?_⟩
    exact Option.some.inj ((lookup_assign hp).symm.trans (hentries p hp hkind hname))

/-- If it does not get through then it is refused with a type error. -/
theorem failsByType_call (hf : f.signature.WellFormed) (hcontexts : (contexts.map (·.1)).Nodup)
    (hnames : ∀ e ∈ contexts, e.1 ∈ f.signature.map (·.name)) (hkeywords : keywords.names.Nodup)
    (hpassed : f.signature.receive positional keywords = .ok passed)
    (hloads : ∀ e ∈ contexts, e.2.Loads ((passed.lookup e.1).getD .none) s) :
    FailsByType (call ⟨f, contexts⟩ positional keywords s).outcome := by
  by_cases hself : receiverKeyword ∈ keywords.names
  · rw [call, if_pos (Arguments.mem_names.1 hself)]
    exact .error rfl
  · cases hbound : f.signature.bind positional keywords with
    | error e =>
      rw [call, if_neg (Arguments.mem_names.not.1 hself), hbound]
      exact .error (failsByType_bind _ _ _ e hbound)
    | ok bound =>
      obtain ⟨bound', hbound', hcompletes⟩ :=
        exists_bind_of_receive hf (apart_of_bind hf hbound) hpassed
      obtain ⟨extra, value, replaced, -, -, houtcome, -⟩ :=
        exists_outcome_call hf hcontexts hnames hkeywords hself hbound' hcompletes hloads
      rw [houtcome]
      exact failsByType_passOn _ _

/-- **Which calls a decoration loses.**  Take a call that the function takes by itself, where it
would receive `passed`, and in which the value of every named parameter loads.

* If the call gets through then the function runs once.  Every named parameter that gathers no
  arguments receives the handle of its value, and every other parameter its value.
* Otherwise the function does not run, and the call is refused with a type error. -/
theorem call_gets_through {α : Type} {d : Decorated} (hf : f.signature.WellFormed)
    (hcontexts : (contexts.map (·.1)).Nodup) (hd : make (.plain f) contexts = .ok d)
    (hkeywords : keywords.names.Nodup)
    (hpassed : f.signature.receive positional keywords = .ok passed)
    (hloads : ∀ e ∈ contexts, e.2.Loads ((passed.lookup e.1).getD .none) s) :
    (GetsThrough f (contexts.map (·.1)) positional keywords passed →
      ∃ (records : List Log.Record) (received : String → Value),
        (∀ body : Arguments → Program α, (Program.call d positional keywords body).run s =
          let r := (body (f.signature.assign received)).run s
          ⟨r.state, records ++ r.log, r.outcome⟩) ∧
        (∀ p ∈ f.signature, ¬ p.kind.gathers → ∀ c, (p.name, c) ∈ contexts →
          ∃ h : Handle, (c.load ((passed.lookup p.name).getD .none) s).outcome = .ok (some h) ∧
            received p.name = h.toValue) ∧
        ∀ p ∈ f.signature, p.kind.gathers ∨ p.name ∉ contexts.map (·.1) →
          passed.lookup p.name = some (received p.name)) ∧
    (¬ GetsThrough f (contexts.map (·.1)) positional keywords passed →
      ∃ (records : List Log.Record) (e : Fault), e.kind = .type ∧
        ∀ body : Arguments → Program α,
          (Program.call d positional keywords body).run s = ⟨s, records, .error e⟩) := by
  obtain ⟨rfl, hnames⟩ := eq_of_make_plain hcontexts hd
  have hiff := exists_call_iff hf hcontexts hnames hkeywords hpassed hloads
  refine ⟨fun h => ?_, fun h => ?_⟩
  · obtain ⟨arguments, hcall⟩ := hiff.2 h
    obtain ⟨bound, hbound, hcompletes⟩ := exists_bind_of_receive hf h.apart hpassed
    obtain ⟨value, received, hvalue, rfl, hhandles, hothers⟩ :=
      received_of_call hf hcontexts hnames hkeywords hbound hcall
    obtain rfl : passed = f.signature.assign value := by
      rw [← hcompletes.eq, complete_eq_assign hvalue]
    refine ⟨_, received, Program.run_call_of_ok hcall, fun p hp hgathers c hc => ?_,
      fun p hp hor => ?_⟩
    · rw [lookup_assign hp, Option.getD_some]
      exact hhandles p hp hgathers c hc
    · rw [lookup_assign hp, hothers p hp hor]
  · cases hcall : (call ⟨f, contexts⟩ positional keywords s).outcome with
    | ok arguments => exact absurd (hiff.1 ⟨arguments, hcall⟩) h
    | error e =>
      have hkind := failsByType_call hf hcontexts hnames hkeywords hpassed hloads e hcall
      exact ⟨_, e, hkind, Program.run_call_of_error hcall⟩

/-- A function with a parameter that takes its argument by position alone and is left to its
default, and with named parameters of three kinds, of which one gathers keyword arguments.  Without
any to gather the call gets through.  With one that has the name of the parameter left to its
default it does not, though the function would gather it. -/
theorem call_gets_through_without_entries :
    let c : Context := ⟨0, .text, "str"⟩
    let i : Context := ⟨1, .integer, "int"⟩
    let g : Context := ⟨2, .dict, "dict"⟩
    let f : Function :=
      ⟨"f", [⟨"a", .positionalOnly, none⟩, ⟨"z", .positionalOnly, some (.int 3)⟩,
        ⟨"b", .positionalOrKeyword, none⟩, ⟨"k", .keywordOnly, some .none⟩,
        ⟨"more", .restKeyword, none⟩], none⟩
    let contexts := [("k", c), ("a", i), ("more", g)]
    let d : Decorated := ⟨f, contexts⟩
    let s := Stacks.empty.set c [.text "t"]
    let answers (keywords : Arguments) := ((Program.call d [.int 1] keywords fun arguments =>
      .done (.ok arguments)).run s).outcome
    let few : Arguments := [("b", .int 2)]
    let more : Arguments := [("b", .int 2), ("z", .int 9)]
    let passed (gathered : Value) : Arguments :=
      [("a", .int 1), ("z", .int 3), ("b", .int 2), ("k", .none), ("more", gathered)]
    (f.signature.WellFormed ∧ (contexts.map (·.1)).Nodup ∧ make (.plain f) contexts = .ok d) ∧
    (f.signature.receive [.int 1] few = .ok (passed (.dict [] none)) ∧
      GetsThrough f (contexts.map (·.1)) [.int 1] few (passed (.dict [] none)) ∧
      answers few = .ok [("a", .handle .explicit (.int 1)), ("z", .int 3), ("b", .int 2),
        ("k", .handle .resolved (.text "t")), ("more", .dict [] none)]) ∧
    f.signature.receive [.int 1] more = .ok (passed (.dict [(.text "z", .int 9)] none)) ∧
      ¬ GetsThrough f (contexts.map (·.1)) [.int 1] more
        (passed (.dict [(.text "z", .int 9)] none)) ∧
      ∃ e, answers more = .error e ∧ e.kind = .type := by
  intro c i g f contexts d s answers few more passed
  have hf : f.signature.WellFormed := by decide
  have hcontexts : (contexts.map (·.1)).Nodup := by decide
  have hd : make (.plain f) contexts = .ok d := make_plain hcontexts (by simp [contexts, f])
  have hloads (entries : List (Value × Value)) : ∀ e ∈ contexts,
      e.2.Loads (((passed (.dict entries none)).lookup e.1).getD .none) s := by
    refine List.forall_mem_cons.2 ⟨?_, List.forall_mem_cons.2 ⟨?_, List.forall_mem_singleton.2 ?_⟩⟩
    · exact ⟨⟨.resolved, .text "t"⟩, rfl⟩
    · exact ⟨⟨.explicit, .int 1⟩, rfl⟩
    · exact ⟨⟨.explicit, .dict entries none⟩, rfl⟩
  refine ⟨⟨hf, hcontexts, hd⟩, ⟨rfl, ?_⟩, rfl, ?_⟩
  · have hthrough : GetsThrough f (contexts.map (·.1)) [.int 1] few (passed (.dict [] none)) := by
      refine ⟨by decide, by decide, by decide, fun p hp hkind _ => ?_⟩
      have hmore : ⟨"more", .restKeyword, none⟩ ∈ f.signature := by simp [f]
      rw [hf.eq_of_restKeyword hp hmore hkind rfl]
      rfl
    refine ⟨hthrough, ?_⟩
    obtain ⟨records, received, hrun, hhandles, hothers⟩ :=
      (call_gets_through (α := Arguments) hf hcontexts hd (by decide) rfl (hloads [])).1 hthrough
    have ha : received "a" = .handle .explicit (.int 1) := by
      obtain ⟨h, hload, hh⟩ := hhandles ⟨"a", .positionalOnly, none⟩ (by simp [f]) (by decide) i
        (by simp [contexts])
      cases hload
      exact hh
    have hk : received "k" = .handle .resolved (.text "t") := by
      obtain ⟨h, hload, hh⟩ := hhandles ⟨"k", .keywordOnly, some .none⟩ (by simp [f]) (by decide) c
        (by simp [contexts])
      cases hload
      exact hh
    have hz := hothers ⟨"z", .positionalOnly, some (.int 3)⟩ (by simp [f]) (.inr (by decide))
    have hb := hothers ⟨"b", .positionalOrKeyword, none⟩ (by simp [f]) (.inr (by decide))
    have hmore := hothers ⟨"more", .restKeyword, none⟩ (by simp [f]) (.inl rfl)
    have hanswers : answers few = .ok (f.signature.assign received) :=
      congrArg Reply.outcome (hrun _)
    rw [hanswers]
    simp only [Signature.assign, f, List.map_cons, List.map_nil, ha, hk, ← Option.some.inj hz,
      ← Option.some.inj hb, ← Option.some.inj hmore]
  · have hnot : ¬ GetsThrough f (contexts.map (·.1)) [.int 1] more
        (passed (.dict [(.text "z", .int 9)] none)) := fun h =>
      h.apart ⟨"z", .positionalOnly, some (.int 3)⟩ (List.mem_cons_self ..) rfl (by decide)
    obtain ⟨records, e, hkind, hrun⟩ :=
      (call_gets_through (α := Arguments) hf hcontexts hd (by decide) rfl (hloads _)).2 hnot
    exact ⟨hnot, e, congrArg Reply.outcome (hrun _), hkind⟩

/-- Calls that a function takes by itself and that its decoration loses: one with the keyword that a
decorated function has for itself, one with the name of a parameter that takes its argument by
position alone, and one each in which a named parameter gathers an argument by position or by
keyword. -/
theorem calls_lost :
    let c : Context := ⟨0, .anything, "object"⟩
    let f : Function :=
      ⟨"f", [⟨"a", .positionalOnly, some .none⟩, ⟨"rest", .restPositional, none⟩,
        ⟨"more", .restKeyword, none⟩], none⟩
    let lost (contexts : List (String × Context)) (positional : List Value) (keywords : Arguments)
        (e : Fault) : Prop :=
      ∃ d passed, make (.plain f) contexts = .ok d ∧
        f.signature.receive positional keywords = .ok passed ∧
        ∀ s, (∀ e ∈ contexts, e.2.Loads ((passed.lookup e.1).getD .none) s) ∧
          ∀ body : Arguments → Program Arguments,
            ((Program.call d positional keywords body).run s).outcome = .error e
    f.signature.WellFormed ∧
      lost [("a", c)] [.int 1] [("self", .int 2)] .receiverByKeyword ∧
      lost [] [] [("a", .int 2)] (.positionalOnly "a") ∧
      lost [("rest", c)] [.int 1, .int 2] [] (.notIterable "Explicit") ∧
      lost [("more", c)] [] [("k", .int 2)] (.notSubscriptable "Explicit") := by
  intro c f lost
  have hlost {contexts : List (String × Context)} {positional : List Value} {keywords : Arguments}
      {e : Fault} (passed : Arguments) (hcontexts : (contexts.map (·.1)).Nodup)
      (hnames : ∀ e ∈ contexts, e.1 ∈ f.signature.map (·.name))
      (hpassed : f.signature.receive positional keywords = .ok passed)
      (hloads : ∀ e ∈ contexts, ∃ h : Handle, ∀ s : Stacks,
        (e.2.load ((passed.lookup e.1).getD .none) s).outcome = .ok (some h))
      (hcall : ∀ s, (call ⟨f, contexts⟩ positional keywords s).outcome = .error e) :
      lost contexts positional keywords e :=
    ⟨_, passed, make_plain hcontexts hnames, hpassed, fun s =>
      ⟨fun e he => (hloads e he).imp fun _ h => h s,
        fun body => congrArg Reply.outcome (Program.run_call_of_error (hcall s) body)⟩⟩
  refine ⟨by decide, ?_, ?_, ?_, ?_⟩
  · exact hlost _ (by decide) (by simp [f]) rfl (by simpa using ⟨_, fun s => rfl⟩) fun s => rfl
  · exact hlost _ (by decide) (by simp) rfl (by simp) fun s => rfl
  · exact hlost _ (by decide) (by simp [f]) rfl (by simpa using ⟨_, fun s => rfl⟩) fun s => rfl
  · exact hlost _ (by decide) (by simp [f]) rfl (by simpa using ⟨_, fun s => rfl⟩) fun s => rfl

end Decorated

end Strided.Defaults
