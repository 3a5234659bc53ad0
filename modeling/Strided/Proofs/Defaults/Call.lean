import Mathlib.Logic.Function.Basic
import Strided.Proofs.Defaults.Invariant
import Strided.Proofs.Defaults.PassingOn
import Strided.Proofs.Defaults.Resolution

/-!
# Calls of decorated functions

A call of a decorated function resolves the arguments of the named parameters, and of no others
(`Decorated.call_resolves`).  If each of them loads then the function is called with the handles in
place of these arguments.  Otherwise it is not called, and the fault is that of the first that does
not load, in the order of the contexts and not of the parameters.  A method is called with its object
before the other positional arguments, and so is a case of this.

Resolving goes through the contexts one by one, and each step replaces the value of one name.  The
steps do not see each other, since every name is that of one context.
-/

namespace Strided.Defaults

/-! ### Loading -/

/-- The value has a handle. -/
def Context.Loads (c : Context) (v : Value) (s : Stacks) : Prop :=
  ∃ h, (c.load v s).outcome = .ok (some h)

namespace Context

variable {c : Context} {v : Value} {s : Stacks}

theorem Loads.handle (h : c.Loads v s) :
    ∃ h : Handle, (c.load v s).outcome = .ok (some h) ∧
      (Handle.unwrap v ≠ .none → h.toValue = .handle .explicit (Handle.unwrap v)) ∧
      (Handle.unwrap v = .none →
        ∃ top, c.current s = .ok top ∧ h.toValue = .handle .resolved top) := by
  obtain ⟨h, hload⟩ := h
  have hresolve := outcome_load_eq_some_iff.1 hload
  refine ⟨h, hload, fun hv => ?_, fun hv => ?_⟩
  · rw [(eq_explicit_of_resolve hv hresolve).2]
    rfl
  · obtain ⟨top, rest, hstack, rfl⟩ := eq_resolved_of_resolve hv hresolve
    exact ⟨top, by simp only [current, hstack], rfl⟩

/-- What comes of a value that does not load: a fault if it is left out, and otherwise nothing. -/
theorem outcome_load_of_not_loads (h : ¬ c.Loads v s) :
    (Handle.unwrap v = .none ∧ c.current s = .error (.noCurrent c.description) ∧
      (c.load v s).outcome = .error (.noCurrent c.description)) ∨
    (Handle.unwrap v ≠ .none ∧ (c.load v s).outcome = .ok none) := by
  by_cases hv : Handle.unwrap v = .none
  · refine .inl ⟨hv, ?_⟩
    cases hs : c.stack s with
    | nil =>
      refine ⟨by simp only [current, hs], ?_⟩
      rw [load_of_stack_nil hv hs]
      rfl
    | cons top rest =>
      obtain ⟨records, hload⟩ := load_of_stack_cons hv hs
      exact absurd ⟨_, congrArg Traced.outcome hload⟩ h
  · refine .inr ⟨hv, ?_⟩
    by_cases ht : c.type.admits (Handle.unwrap v)
    · exact absurd ⟨_, congrArg Traced.outcome (load_of_admits (s := s) hv ht)⟩ h
    · rw [load_of_not_admits hv ht]
      rfl

end Context

/-! ### Replacing a value -/

namespace Signature

variable {s : Signature} {value : String → Value} {n : String}

theorem getD_lookup_assign (hn : n ∈ s.map (·.name)) :
    ((s.assign value).lookup n).getD .none = value n := by
  obtain ⟨p, hp, rfl⟩ := List.mem_map.1 hn
  rw [lookup_assign hp, Option.getD_some]

theorem assign_congr {value' : String → Value} (h : ∀ p ∈ s, value' p.name = value p.name) :
    s.assign value' = s.assign value :=
  List.map_congr_left fun p hp => by rw [h p hp]

theorem update_of_not_mem {α : Type} {key : α → String} {l : List α} {a : α}
    (hn : n ∉ l.map key) (ha : a ∈ l) (v : Value) :
    Function.update value n v (key a) = value (key a) :=
  Function.update_of_ne (fun h => hn (List.mem_map.2 ⟨a, ha, h⟩)) v value

theorem set_assign (hs : (s.map (·.name)).Nodup) (hn : n ∈ s.map (·.name)) (v : Value) :
    Arguments.set n v (s.assign value) = s.assign (Function.update value n v) := by
  induction s with
  | nil => cases hn
  | cons p rest ih =>
    obtain ⟨hp, hrest⟩ := List.nodup_cons.1 hs
    rw [assign, List.map_cons, Arguments.set, assign, List.map_cons]
    by_cases hname : p.name = n
    · subst hname
      rw [if_pos rfl, Function.update_self]
      exact congrArg _ (assign_congr fun q hq => update_of_not_mem hp hq v).symm
    · rw [if_neg hname, Function.update_of_ne hname]
      exact congrArg _ (ih hrest ((List.mem_cons.1 hn).resolve_left (Ne.symm hname)))

end Signature

namespace Decorated

open Signature

variable {contexts : List (String × Context)} {signature : Signature} {value : String → Value}
  {s : Stacks}

/-! ### Decorating -/

theorem contextsOfPairs_of_nodup (h : (contexts.map (·.1)).Nodup) :
    contextsOfPairs contexts = contexts := by
  suffices hfold : ∀ a : List (String × Context), ((a ++ contexts).map (·.1)).Nodup →
      contexts.foldl (fun a p =>
        if a.any (·.1 == p.1) then a.map fun q => if q.1 == p.1 then p else q else a ++ [p]) a =
      a ++ contexts from hfold [] h
  induction contexts with
  | nil => exact fun a _ => (List.append_nil a).symm
  | cons e rest ih =>
    intro a ha
    have hnew : ¬ a.any (·.1 == e.1) := by
      rw [List.any_eq_true]
      rintro ⟨d, hd, hname⟩
      rw [List.map_append] at ha
      exact (List.nodup_append.1 ha).2.2 _ (List.mem_map_of_mem hd) _ (List.mem_cons_self ..)
        (eq_of_beq hname)
    rw [List.foldl_cons, if_neg hnew,
      ih (List.nodup_cons.1 h).2 (a ++ [e]) (List.append_cons a e rest ▸ ha), ← List.append_cons]

theorem make_plain {f : Function} (hcontexts : (contexts.map (·.1)).Nodup)
    (hnames : ∀ e ∈ contexts, e.1 ∈ f.signature.map (·.name)) :
    make (.plain f) contexts = .ok ⟨f, contexts⟩ := by
  have hunknown : unknownNames f.signature (contexts.map (·.1)) = [] := by
    have hfilter : (contexts.map (·.1)).filter (fun n => !f.signature.any (·.name == n)) = [] := by
      refine List.filter_eq_nil_iff.2 fun n hn => ?_
      obtain ⟨e, he, rfl⟩ := List.mem_map.1 hn
      obtain ⟨p, hp, hname⟩ := List.mem_map.1 (hnames e he)
      simpa using ⟨p, hp, hname⟩
    rw [unknownNames, hfilter, List.mergeSort_nil]
  simp only [make, contextsOfPairs_of_nodup hcontexts, Decorable.function, hunknown]

/-! ### Resolving the named arguments -/

theorem outcome_resolveAll_cons (name : String) {n : String} (c : Context)
    (rest : List (String × Context)) (value : String → Value) (s : Stacks)
    (hn : n ∈ signature.map (·.name)) :
    (resolveAll name s ((n, c) :: rest) (signature.assign value)).outcome =
      match (c.load (value n) s).outcome with
      | .ok (some h) =>
        (resolveAll name s rest (Arguments.set n h.toValue (signature.assign value))).outcome
      | .ok none => .error (.wrongArgument name n c.description (value n).typeName)
      | .error e => .error e := by
  rw [resolveAll, getD_lookup_assign hn]
  cases hload : (c.load (value n) s).outcome with
  | error e => rw [Traced.bind_of_error hload]
  | ok loaded =>
    rw [Traced.bind_of_ok hload]
    cases loaded with
    | some h => rfl
    | none => rfl

theorem resolveAll_append (name : String) (before after : List (String × Context)) (arguments : Arguments) :
    resolveAll name s (before ++ after) arguments =
      resolveAll name s before arguments >>= resolveAll name s after := by
  induction before generalizing arguments with
  | nil => exact (Traced.pure_bind arguments _).symm
  | cons e rest ih =>
    rw [List.cons_append, resolveAll, resolveAll, bind_assoc]
    congr 1
    funext loaded
    cases loaded with
    | some h => exact ih _
    | none => rfl

theorem resolveAll_of_loads (name : String) (hsignature : (signature.map (·.name)).Nodup)
    (hcontexts : (contexts.map (·.1)).Nodup)
    (hnames : ∀ e ∈ contexts, e.1 ∈ signature.map (·.name))
    (hloads : ∀ e ∈ contexts, e.2.Loads (value e.1) s) :
    ∃ received : String → Value,
      (resolveAll name s contexts (signature.assign value)).outcome =
        .ok (signature.assign received) ∧
      (∀ e ∈ contexts, ∃ h : Handle, (e.2.load (value e.1) s).outcome = .ok (some h) ∧
        received e.1 = h.toValue) ∧
      ∀ n ∉ contexts.map (·.1), received n = value n := by
  induction contexts generalizing value with
  | nil => exact ⟨value, rfl, nofun, fun _ _ => rfl⟩
  | cons e rest ih =>
    obtain ⟨hname, hnodup⟩ := List.nodup_cons.1 hcontexts
    obtain ⟨hn, hnrest⟩ := List.forall_mem_cons.1 hnames
    obtain ⟨⟨h, hload⟩, hloadsrest⟩ := List.forall_mem_cons.1 hloads
    -- the others have the values that they had before
    have hsame : ∀ d ∈ rest, Function.update value e.1 h.toValue d.1 = value d.1 :=
      fun d hd => update_of_not_mem hname hd h.toValue
    obtain ⟨received, houtcome, hhandles, hothers⟩ :=
      ih hnodup hnrest fun d hd => (hsame d hd).symm ▸ hloadsrest d hd
    refine ⟨received, ?_, List.forall_mem_cons.2 ⟨⟨h, hload, ?_⟩, fun d hd => ?_⟩, fun n hnot => ?_⟩
    · rw [outcome_resolveAll_cons name e.2 rest value s hn, hload, ← houtcome, ← set_assign hsignature hn]
    · rw [hothers e.1 hname, Function.update_self]
    · rw [← hsame d hd]
      exact hhandles d hd
    · rw [List.map_cons, List.mem_cons, not_or] at hnot
      rw [hothers n hnot.2, Function.update_of_ne hnot.1]

theorem exists_first_not {α : Type} {P : α → Prop} {l : List α} (h : ¬ ∀ a ∈ l, P a) :
    ∃ before a after, l = before ++ a :: after ∧ (∀ b ∈ before, P b) ∧ ¬ P a := by
  induction l with
  | nil => exact absurd nofun h
  | cons a rest ih =>
    by_cases ha : P a
    · obtain ⟨before, b, after, rfl, hbefore, hb⟩ :=
        ih fun hrest => h (List.forall_mem_cons.2 ⟨ha, hrest⟩)
      exact ⟨a :: before, b, after, rfl, List.forall_mem_cons.2 ⟨ha, hbefore⟩, hb⟩
    · exact ⟨[], a, rest, rfl, nofun, ha⟩

/-- If some value does not load then what comes of it is what comes of the first such. -/
theorem resolveAll_of_not_loads (name : String) (hsignature : (signature.map (·.name)).Nodup)
    (hcontexts : (contexts.map (·.1)).Nodup)
    (hnames : ∀ e ∈ contexts, e.1 ∈ signature.map (·.name))
    (hloads : ¬ ∀ e ∈ contexts, e.2.Loads (value e.1) s) :
    ∃ before n c after e, contexts = before ++ (n, c) :: after ∧
      (∀ d ∈ before, d.2.Loads (value d.1) s) ∧ ¬ c.Loads (value n) s ∧
      (resolveAll name s contexts (signature.assign value)).outcome = .error e ∧
      (Handle.unwrap (value n) = .none → c.current s = .error e ∧ e = .noCurrent c.description) ∧
      (Handle.unwrap (value n) ≠ .none →
        e = .wrongArgument name n c.description (value n).typeName) := by
  obtain ⟨before, ⟨n, c⟩, after, rfl, hbefore, hfirst⟩ := exists_first_not hloads
  -- the first that does not load still has the value that it had before the others were resolved
  have hsub : before.Sublist (before ++ (n, c) :: after) := List.sublist_append_left ..
  have hmem : (n, c) ∈ before ++ (n, c) :: after := by simp
  obtain ⟨received, houtcome, -, hothers⟩ := resolveAll_of_loads name hsignature
    ((hsub.map _).nodup hcontexts) (fun d hd => hnames d (hsub.subset hd)) hbefore
  have hvalue : received n = value n := by
    refine hothers n fun hn => ?_
    rw [List.map_append, List.map_cons] at hcontexts
    exact (List.nodup_append.1 hcontexts).2.2 n hn n (List.mem_cons_self ..) rfl
  have hresolve := outcome_resolveAll_cons name c after received s (hnames _ hmem)
  rw [hvalue] at hresolve
  refine ⟨before, n, c, after, ?_⟩
  rw [resolveAll_append, Traced.bind_of_ok houtcome]
  rcases Context.outcome_load_of_not_loads hfirst with ⟨hv, hcurrent, hload⟩ | ⟨hv, hload⟩
  · exact ⟨_, rfl, hbefore, hfirst, hresolve.trans (by rw [hload]), fun _ => ⟨hcurrent, rfl⟩,
      fun h => absurd hv h⟩
  · exact ⟨_, rfl, hbefore, hfirst, hresolve.trans (by rw [hload]), fun h => absurd h hv,
      fun _ => rfl⟩

/-! ### The call -/

/-- A call whose arguments can be bound resolves the named ones and passes all of them on. -/
theorem call_eq {d : Decorated} {positional : List Value} {keywords bound : Arguments}
    (hself : receiverKeyword ∉ keywords.names)
    (hbound : d.function.signature.bind positional keywords = .ok bound) (s : Stacks) :
    d.call positional keywords s =
      resolveAll d.function.name s d.contexts (d.function.signature.complete bound) >>=
        fun arguments => .ofExcept (d.function.signature.passOn arguments) := by
  have hnone : ¬ (keywords.lookup receiverKeyword).isSome := Arguments.mem_names.not.1 hself
  rw [call, if_neg hnone, hbound, Traced.ofExcept_ok, Traced.pure_bind]

/-- **A decorated call resolves exactly the named parameters.**  Let the arguments of a call be
bound, and let `value` be what was bound to each parameter, or else what it is given if nothing is.

* If the values of all named parameters load then the function runs once.  Each named parameter
  receives an explicit handle of its value, or one that is resolved to the current default if the
  value is left out, and every other parameter receives its value.
* Otherwise the function does not run, and the fault is that of the first context whose value does
  not load: its own if the value is left out, and one that names the parameter if not. -/
theorem call_resolves {α : Type} (f : Function) (contexts : List (String × Context))
    (positional : List Value) (keywords bound : Arguments) (hf : f.signature.WellFormed)
    (hcontexts : (contexts.map (·.1)).Nodup)
    (hsingle : ∀ e ∈ contexts, ∃ p ∈ f.signature, p.name = e.1 ∧ ¬ p.kind.gathers)
    (hkeywords : keywords.names.Nodup) (hself : receiverKeyword ∉ keywords.names)
    (hbound : f.signature.bind positional keywords = .ok bound) :
    ∃ (d : Decorated) (value : String → Value), make (.plain f) contexts = .ok d ∧
      (∀ p ∈ f.signature, (bound.lookup p.name).or (leftOut p) = some (value p.name)) ∧
      ∀ s : Stacks,
        ((∀ e ∈ contexts, e.2.Loads (value e.1) s) →
          ∃ (records : List Log.Record) (received : String → Value),
            (∀ body : Arguments → Program α, (Program.call d positional keywords body).run s =
              let r := (body (f.signature.assign received)).run s
              ⟨r.state, records ++ r.log, r.outcome⟩) ∧
            (∀ e ∈ contexts,
              (Handle.unwrap (value e.1) ≠ .none →
                received e.1 = .handle .explicit (Handle.unwrap (value e.1))) ∧
              (Handle.unwrap (value e.1) = .none →
                ∃ top, e.2.current s = .ok top ∧ received e.1 = .handle .resolved top)) ∧
            ∀ p ∈ f.signature, p.name ∉ contexts.map (·.1) → received p.name = value p.name) ∧
        ((¬ ∀ e ∈ contexts, e.2.Loads (value e.1) s) →
          ∃ before n c after e records, contexts = before ++ (n, c) :: after ∧
            (∀ d ∈ before, d.2.Loads (value d.1) s) ∧ ¬ c.Loads (value n) s ∧
            (Handle.unwrap (value n) = .none →
              c.current s = .error e ∧ e = .noCurrent c.description) ∧
            (Handle.unwrap (value n) ≠ .none →
              e = .wrongArgument f.name n c.description (value n).typeName) ∧
            ∀ body : Arguments → Program α,
              (Program.call d positional keywords body).run s = ⟨s, records, .error e⟩) := by
  have hnames : ∀ e ∈ contexts, e.1 ∈ f.signature.map (·.name) := by
    intro e he
    obtain ⟨p, hp, hname, -⟩ := hsingle e he
    exact hname ▸ List.mem_map_of_mem hp
  obtain ⟨value, extra, hvalue, hsuits⟩ := suits_of_bind hf hkeywords hbound
  have hcall (s : Stacks) := call_eq (d := ⟨f, contexts⟩) hself hbound s
  rw [complete_eq_assign hvalue] at hcall
  refine ⟨⟨f, contexts⟩, value, make_plain hcontexts hnames, hvalue, fun s => ⟨?_, ?_⟩⟩
  · intro hloads
    obtain ⟨received, hresolve, hhandles, hothers⟩ :=
      resolveAll_of_loads f.name hf.nodup hcontexts hnames hloads
    -- a handle takes the place of one argument only, so what was gathered is as it was
    have hreceived : f.signature.Suits extra received := by
      refine ⟨fun p hp => ?_, hsuits.nodup, hsuits.apart⟩
      by_cases hgathers : p.kind.gathers
      · have hname : p.name ∉ contexts.map (·.1) := by
          intro hname
          obtain ⟨e, he, hpe⟩ := List.mem_map.1 hname
          obtain ⟨q, hq, hqe, hqgathers⟩ := hsingle e he
          exact hqgathers (hf.eq_of_name_eq hq hp (hqe.trans hpe) ▸ hgathers)
        rw [hothers p.name hname]
        exact hsuits.holds p hp
      · exact p.holds_of_not_gathers hgathers extra _
    have houtcome : (call ⟨f, contexts⟩ positional keywords s).outcome =
        .ok (f.signature.assign received) := by
      rw [hcall s, Traced.bind_of_ok hresolve, passOn_assign hf hreceived]
      rfl
    refine ⟨_, received, Program.run_call_of_ok houtcome, fun e he => ?_,
      fun p _ hp => hothers p.name hp⟩
    obtain ⟨h, hload, hh⟩ := hhandles e he
    obtain ⟨h', hload', hexplicit, hresolved⟩ := (hloads e he).handle
    cases hload.symm.trans hload'
    rw [hh]
    exact ⟨hexplicit, hresolved⟩
  · intro hloads
    obtain ⟨before, n, c, after, e, hsplit, hbefore, hfirst, hresolve, hleft, hgiven⟩ :=
      resolveAll_of_not_loads f.name hf.nodup hcontexts hnames hloads
    have houtcome : (call ⟨f, contexts⟩ positional keywords s).outcome = .error e := by
      rw [hcall s, Traced.bind_of_error hresolve]
    exact ⟨before, n, c, after, e, _, hsplit, hbefore, hfirst, hleft, hgiven,
      Program.run_call_of_error houtcome⟩

/-- A call with all kinds of parameters.  A handle is passed for the first parameter and nothing for
the named one that is passed by keyword, whose context comes first; a keyword argument has the name
of the parameter that takes its argument by position alone.  With a default for the one that is left
out the function is called, and without it is not. -/
theorem call_resolves_all_kinds :
    let c : Context := ⟨0, .text, "str"⟩
    let d : Context := ⟨1, .integer, "int"⟩
    let f : Function :=
      ⟨"f", [⟨"a", .positionalOnly, none⟩, ⟨"b", .positionalOrKeyword, some (.int 5)⟩,
        ⟨"rest", .restPositional, none⟩, ⟨"k", .keywordOnly, some .none⟩,
        ⟨"more", .restKeyword, none⟩], none⟩
    let contexts := [("k", c), ("a", d)]
    let positional : List Value := [.handle .resolved (.int 1), .int 2, .int 3]
    let keywords : Arguments := [("x", .int 9), ("a", .int 8)]
    let bound : Arguments := [("a", .handle .resolved (.int 1)), ("b", .int 2),
      ("rest", .tuple [.int 3]), ("more", Signature.gathered keywords)]
    let s := Stacks.empty.set c [.text "t"]
    f.signature.WellFormed ∧ (contexts.map (·.1)).Nodup ∧
    (∀ e ∈ contexts, ∃ p ∈ f.signature, p.name = e.1 ∧ ¬ p.kind.gathers) ∧
    keywords.names.Nodup ∧ receiverKeyword ∉ keywords.names ∧
    f.signature.bind positional keywords = .ok bound ∧
    ∃ g : Decorated, make (.plain f) contexts = .ok g ∧
      ((Program.call g positional keywords fun arguments => .done (.ok arguments)).run s).outcome =
        .ok [("a", .handle .explicit (.int 1)), ("b", .int 2), ("rest", .tuple [.int 3]),
          ("k", .handle .resolved (.text "t")), ("more", Signature.gathered keywords)] ∧
      ((Program.call g positional keywords fun arguments => .done (.ok arguments)).run
        .empty).outcome = .error (.noCurrent "str") := by
  intro c d f contexts positional keywords bound s
  have hf : f.signature.WellFormed := by decide
  have hcontexts : (contexts.map (·.1)).Nodup := by decide
  have hsingle : ∀ e ∈ contexts, ∃ p ∈ f.signature, p.name = e.1 ∧ ¬ p.kind.gathers := by
    simp [contexts, f, ParameterKind.gathers]
  have hkeywords : keywords.names.Nodup := by decide
  have hself : receiverKeyword ∉ keywords.names := by decide
  have hbound : f.signature.bind positional keywords = .ok bound := rfl
  obtain ⟨g, value, hmake, hvalue, hcall⟩ := call_resolves (α := Arguments) f contexts positional
    keywords bound hf hcontexts hsingle hkeywords hself hbound
  have ha : value "a" = .handle .resolved (.int 1) :=
    (Option.some.inj (hvalue ⟨"a", .positionalOnly, none⟩ (by simp [f]))).symm
  have hk : value "k" = .none :=
    (Option.some.inj (hvalue ⟨"k", .keywordOnly, some .none⟩ (by simp [f]))).symm
  refine ⟨hf, hcontexts, hsingle, hkeywords, hself, hbound, g, hmake, ?_, ?_⟩
  · have hloads : ∀ e ∈ contexts, e.2.Loads (value e.1) s := by
      refine List.forall_mem_cons.2 ⟨?_, List.forall_mem_singleton.2 ?_⟩
      · exact ⟨⟨.resolved, .text "t"⟩, by rw [hk]; rfl⟩
      · exact ⟨⟨.explicit, .int 1⟩, by rw [ha]; rfl⟩
    obtain ⟨records, received, hrun, hhandles, hothers⟩ := (hcall s).1 hloads
    have hreceived (p : Parameter) (hp : p ∈ f.signature) (hname : p.name ∉ contexts.map (·.1)) :
        some (received p.name) = (bound.lookup p.name).or (Signature.leftOut p) :=
      (congrArg some (hothers p hp hname)).trans (hvalue p hp).symm
    have hb := Option.some.inj (hreceived ⟨"b", _, _⟩ (.tail _ (.head _)) (by decide))
    have hrest := Option.some.inj
      (hreceived ⟨"rest", _, _⟩ (.tail _ (.tail _ (.head _))) (by decide))
    have hmore := Option.some.inj
      (hreceived ⟨"more", _, _⟩ (.tail _ (.tail _ (.tail _ (.tail _ (.head _))))) (by decide))
    have hreceiveda := (hhandles ("a", d) (.tail _ (.head _))).1 (by simp [ha, Handle.unwrap])
    obtain ⟨top, htop, hreceivedk⟩ := (hhandles ("k", c) (.head _)).2 (by rw [hk]; rfl)
    cases htop
    rw [ha] at hreceiveda
    rw [hrun]
    simp only [Program.run, Signature.assign, f, List.map_cons, List.map_nil, hb, hrest, hmore,
      hreceiveda, hreceivedk]
    rfl
  · have hfails : ¬ c.Loads (value "k") .empty := by
      rintro ⟨h, hload⟩
      rw [hk] at hload
      cases hload
    obtain ⟨before, n, c', after, e, records, hsplit, hbefore, -, hleft, -, hrun⟩ :=
      (hcall .empty).2 fun hloads => hfails (hloads ("k", c) (.head _))
    rw [hrun]
    cases before with
    | nil =>
      obtain ⟨hhead, -⟩ := List.cons.inj hsplit
      cases hhead
      rw [(hleft (by rw [hk]; rfl)).2]
    | cons first rest =>
      obtain ⟨rfl, -⟩ := List.cons.inj hsplit
      exact absurd (hbefore ("k", c) (.head _)) hfails

end Decorated

end Strided.Defaults
