import Strided.Defaults.Wrapper
import Strided.Proofs.Defaults.Call

/-!
# Wrappers of wrappers

A function that is wrapped twice is called as it was wrapped first: the second wrapper takes over the
contexts of the first one and forgets its own.  So it does not do what one wrapper with the contexts
of both does, which resolves the arguments of both (`Callable.stacked_call`).

To compare the two, resolving one argument after the other is told as resolving all of them at once,
each from the value that it came with (`Decorated.outcome_resolveAll`).  The handles for two lists
of contexts in sequence are then those for the first and those for the second, and neither depends
on what is done with the other.
-/

namespace Strided.Defaults

/-- The value is the handle that it has. -/
def Context.Keeps (c : Context) (v : Value) (s : Stacks) : Prop :=
  ∃ h : Handle, (c.load v s).outcome = .ok (some h) ∧ h.toValue = v

/-! ### Putting arguments in place of values -/

/-- The given arguments, and other values for all other names. -/
def Arguments.overlay (given : Arguments) (value : String → Value) : String → Value :=
  given.foldl (fun value e => Function.update value e.1 e.2) value

namespace Arguments

variable {given later : Arguments} {value : String → Value} {n : String} {v : Value}

theorem overlay_cons (e : String × Value) (given : Arguments) (value : String → Value) :
    overlay (e :: given) value = given.overlay (Function.update value e.1 e.2) := rfl

theorem overlay_append : overlay (given ++ later) value = later.overlay (given.overlay value) :=
  List.foldl_append

theorem overlay_of_not_mem (h : n ∉ given.names) : given.overlay value n = value n := by
  induction given generalizing value with
  | nil => rfl
  | cons e rest ih =>
    obtain ⟨hne, hrest⟩ := not_or.1 (List.mem_cons.not.1 h)
    rw [overlay_cons, ih hrest, Function.update_of_ne hne]

theorem overlay_of_mem (hgiven : given.names.Nodup) (h : (n, v) ∈ given) :
    given.overlay value n = v := by
  induction given generalizing value with
  | nil => cases h
  | cons e rest ih =>
    obtain ⟨hname, hrest⟩ := List.nodup_cons.1 hgiven
    rw [overlay_cons]
    rcases List.mem_cons.1 h with rfl | h
    · rw [overlay_of_not_mem hname, Function.update_self]
    · exact ih hrest h

theorem overlay_congr {value' : String → Value} (h : value' n = value n) :
    given.overlay value' n = given.overlay value n := by
  induction given generalizing value value' with
  | nil => exact h
  | cons e rest ih =>
    rw [overlay_cons, overlay_cons]
    refine ih ?_
    by_cases hn : n = e.1
    · rw [hn, Function.update_self, Function.update_self]
    · rw [Function.update_of_ne hn, Function.update_of_ne hn, h]

theorem overlay_eq_self (h : ∀ e ∈ given, e.2 = value e.1) : given.overlay value = value := by
  induction given with
  | nil => rfl
  | cons e rest ih =>
    rw [overlay_cons, h e (List.mem_cons_self ..), Function.update_eq_self]
    exact ih fun d hd => h d (List.mem_cons_of_mem e hd)

end Arguments

namespace Decorated

open Signature

variable {name : String} {contexts others : List (String × Context)} {signature : Signature}
  {value value' : String → Value} {s : Stacks} {given : Arguments} {n : String}

/-! ### Resolving all at once -/

def handleOf (name : String) (s : Stacks) (e : String × Context) (v : Value) :
    Except Fault (String × Value) :=
  match (e.2.load v s).outcome with
  | .ok (some h) => .ok (e.1, h.toValue)
  | .ok none => .error (.wrongArgument name e.1 e.2.description v.typeName)
  | .error fault => .error fault

/-- The handles of the named values, or the fault of the first that has none. -/
def handlesOf (name : String) (s : Stacks) (value : String → Value)
    (contexts : List (String × Context)) : Except Fault Arguments :=
  contexts.mapM fun e => handleOf name s e (value e.1)

theorem handleOf_eq_ok_iff {e : String × Context} {v : Value} {g : String × Value} :
    handleOf name s e v = .ok g ↔
      ∃ h : Handle, (e.2.load v s).outcome = .ok (some h) ∧ g = (e.1, h.toValue) := by
  unfold handleOf
  cases hload : (e.2.load v s).outcome with
  | error fault => simp
  | ok loaded =>
    cases loaded with
    | none => simp
    | some h => simp [eq_comm]

theorem handlesOf_congr (h : ∀ e ∈ contexts, value' e.1 = value e.1) :
    handlesOf name s value' contexts = handlesOf name s value contexts :=
  mapM_congr fun e he => by rw [h e he]

theorem handlesOf_append :
    handlesOf name s value (contexts ++ others) = (do
      let first ← handlesOf name s value contexts
      let second ← handlesOf name s value others
      .ok (first ++ second)) :=
  List.mapM_append

theorem names_of_handlesOf (h : handlesOf name s value contexts = .ok given) :
    given.names = contexts.map (·.1) := by
  induction mapM_eq_ok_iff.1 h with
  | nil => rfl
  | @cons e g contexts given hhandle hrest ih =>
    obtain ⟨h, -, rfl⟩ := handleOf_eq_ok_iff.1 hhandle
    exact congrArg (e.1 :: ·) (ih (mapM_eq_ok_iff.2 hrest))

theorem exists_handlesOf_iff (name : String) :
    (∃ given, handlesOf name s value contexts = .ok given) ↔
      ∀ e ∈ contexts, e.2.Loads (value e.1) s := by
  constructor
  · rintro ⟨given, h⟩ e he
    obtain ⟨g, -, hg⟩ := exists_mem_of_mapM h he
    obtain ⟨handle, hload, -⟩ := handleOf_eq_ok_iff.1 hg
    exact ⟨handle, hload⟩
  · intro h
    refine exists_mapM fun e he => ?_
    obtain ⟨handle, hload⟩ := h e he
    exact ⟨_, handleOf_eq_ok_iff.2 ⟨handle, hload, rfl⟩⟩

theorem overlay_handlesOf (hcontexts : (contexts.map (·.1)).Nodup)
    (h : handlesOf name s value contexts = .ok given) {e : String × Context} (he : e ∈ contexts) :
    ∃ h : Handle, (e.2.load (value e.1) s).outcome = .ok (some h) ∧
      ∀ value', given.overlay value' e.1 = h.toValue := by
  obtain ⟨g, hg, hhandle⟩ := exists_mem_of_mapM h he
  obtain ⟨handle, hload, rfl⟩ := handleOf_eq_ok_iff.1 hhandle
  have hnodup : given.names.Nodup := names_of_handlesOf h ▸ hcontexts
  exact ⟨handle, hload, fun value' => Arguments.overlay_of_mem hnodup hg⟩

/-- Resolving one argument after the other puts all of the handles in place of the values. -/
theorem outcome_resolveAll (name : String) (value : String → Value) (s : Stacks)
    (hsignature : (signature.map (·.name)).Nodup)
    (hcontexts : (contexts.map (·.1)).Nodup)
    (hnames : ∀ e ∈ contexts, e.1 ∈ signature.map (·.name)) :
    (resolveAll name s contexts (signature.assign value)).outcome =
      (handlesOf name s value contexts).map fun given =>
        signature.assign (given.overlay value) := by
  induction contexts generalizing value with
  | nil => rfl
  | cons e rest ih =>
    obtain ⟨hname, hrest⟩ := List.nodup_cons.1 hcontexts
    obtain ⟨hn, hnrest⟩ := List.forall_mem_cons.1 hnames
    rw [outcome_resolveAll_cons name e.2 rest value s hn, handlesOf, List.mapM_cons, handleOf]
    cases hload : (e.2.load (value e.1) s).outcome with
    | error fault => rfl
    | ok loaded =>
      cases loaded with
      | none => rfl
      | some h =>
        -- the others still have the values that they came with
        have hsame : handlesOf name s (Function.update value e.1 h.toValue) rest =
            handlesOf name s value rest :=
          handlesOf_congr fun d hd => update_of_not_mem hname hd h.toValue
        change (resolveAll name s rest
          (Arguments.set e.1 h.toValue (signature.assign value))).outcome = _
        rw [set_assign hsignature hn, ih _ hrest hnrest, hsame, handlesOf]
        cases rest.mapM fun e => handleOf name s e (value e.1) with
        | error fault => rfl
        | ok given => rfl

/-! ### Calling with all at once -/

theorem name_mem_of_single
    (hsingle : ∀ e ∈ contexts, ∃ p ∈ signature, p.name = e.1 ∧ ¬ p.kind.gathers) :
    ∀ e ∈ contexts, e.1 ∈ signature.map (·.name) := by
  intro e he
  obtain ⟨p, hp, hname, -⟩ := hsingle e he
  exact hname ▸ List.mem_map_of_mem hp

theorem outcome_call {f : Function} {positional : List Value} {keywords bound extra : Arguments}
    (hf : f.signature.WellFormed) (hcontexts : (contexts.map (·.1)).Nodup)
    (hsingle : ∀ e ∈ contexts, ∃ p ∈ f.signature, p.name = e.1 ∧ ¬ p.kind.gathers)
    (hself : receiverKeyword ∉ keywords.names)
    (hbound : f.signature.bind positional keywords = .ok bound)
    (hvalue : ∀ p ∈ f.signature, (bound.lookup p.name).or (leftOut p) = some (value p.name))
    (hsuits : f.signature.Suits extra value) :
    (call ⟨f, contexts⟩ positional keywords s).outcome =
      (handlesOf f.name s value contexts).map fun given =>
        f.signature.assign (given.overlay value) := by
  have hresolve := outcome_resolveAll f.name value s hf.nodup hcontexts (name_mem_of_single hsingle)
  rw [call_eq hself hbound s, complete_eq_assign hvalue]
  cases hhandles : handlesOf f.name s value contexts with
  | error fault =>
    rw [hhandles] at hresolve
    rw [Traced.bind_of_error hresolve]
    rfl
  | ok given =>
    rw [hhandles] at hresolve
    -- what was gathered has no handle, and so every parameter can hold what it receives
    have hreceived : f.signature.Suits extra (given.overlay value) := by
      refine hsuits.congr fun p hp hgathers => Arguments.overlay_of_not_mem fun hname => ?_
      rw [names_of_handlesOf hhandles] at hname
      obtain ⟨e, he, hpe⟩ := List.mem_map.1 hname
      obtain ⟨q, hq, hqe, hqgathers⟩ := hsingle e he
      exact hqgathers (hf.eq_of_name_eq hq hp (hqe.trans hpe) ▸ hgathers)
    rw [Traced.bind_of_ok hresolve, passOn_assign hf hreceived]
    rfl

/-- The handles of the first contexts make no difference just if each of the values is its own. -/
theorem assign_overlay_eq_iff {first second : Arguments}
    (hcontexts : ((contexts ++ others).map (·.1)).Nodup)
    (hnames : ∀ e ∈ contexts, e.1 ∈ signature.map (·.name))
    (hfirst : handlesOf name s value contexts = .ok first)
    (hsecond : second.names = others.map (·.1)) :
    signature.assign (second.overlay value) =
        signature.assign (second.overlay (first.overlay value)) ↔
      ∀ e ∈ contexts, e.2.Keeps (value e.1) s := by
  rw [List.map_append] at hcontexts
  obtain ⟨hnodup, -, hdisjoint⟩ := List.nodup_append.1 hcontexts
  have hfirstnames : first.names = contexts.map (·.1) := names_of_handlesOf hfirst
  constructor
  · intro h e he
    obtain ⟨handle, hload, hoverlay⟩ := overlay_handlesOf hnodup hfirst he
    have hname : e.1 ∉ second.names := by
      rw [hsecond]
      exact fun hmem => hdisjoint e.1 (List.mem_map_of_mem he) e.1 hmem rfl
    obtain ⟨p, hp, hpe⟩ := List.mem_map.1 (hnames e he)
    have hlookup := congrArg (List.lookup p.name) h
    rw [lookup_assign hp, lookup_assign hp, hpe, Arguments.overlay_of_not_mem hname,
      Arguments.overlay_of_not_mem hname, hoverlay value] at hlookup
    exact ⟨handle, hload, (Option.some.inj hlookup).symm⟩
  · intro h
    have hkept : first.overlay value = value := by
      refine Arguments.overlay_eq_self fun g hg => ?_
      have hname : g.1 ∈ contexts.map (·.1) := hfirstnames ▸ List.mem_map_of_mem hg
      obtain ⟨e, he, hge⟩ := List.mem_map.1 hname
      obtain ⟨handle, hload, hoverlay⟩ := overlay_handlesOf hnodup hfirst he
      obtain ⟨handle', hload', hkeeps⟩ := h e he
      cases hload.symm.trans hload'
      have hgiven : first.overlay value g.1 = g.2 :=
        Arguments.overlay_of_mem (hfirstnames ▸ hnodup) hg
      rw [← hgiven, ← hge, hoverlay value, hkeeps]
    rw [hkept]

/-- Nor does it make one that they are resolved at all, under the same condition. -/
theorem ok_assign_eq_iff {second : Arguments}
    (hcontexts : ((contexts ++ others).map (·.1)).Nodup)
    (hnames : ∀ e ∈ contexts, e.1 ∈ signature.map (·.name))
    (hsecond : second.names = others.map (·.1)) :
    (.ok (signature.assign (second.overlay value)) = do
      let first ← handlesOf name s value contexts
      .ok (signature.assign (second.overlay (first.overlay value)))) ↔
      ∀ e ∈ contexts, e.2.Keeps (value e.1) s := by
  cases hfirst : handlesOf name s value contexts with
  | ok first =>
    rw [← assign_overlay_eq_iff hcontexts hnames hfirst hsecond]
    exact ⟨fun h => Except.ok.inj h, fun h => congrArg Except.ok h⟩
  | error fault =>
    refine ⟨nofun, fun h => ?_⟩
    -- a value that is its own handle has one
    have hloads : ∀ e ∈ contexts, e.2.Loads (value e.1) s := by
      intro e he
      obtain ⟨handle, hload, -⟩ := h e he
      exact ⟨handle, hload⟩
    obtain ⟨first, hok⟩ := (exists_handlesOf_iff name).2 hloads
    rw [hfirst] at hok
    cases hok

theorem outcome_call_of_bind_error {d : Decorated} {positional : List Value} {keywords : Arguments}
    {fault : Fault} (hself : receiverKeyword ∉ keywords.names)
    (h : d.function.signature.bind positional keywords = .error fault) :
    (d.call positional keywords s).outcome = .error fault := by
  have hnone : ¬ (keywords.lookup receiverKeyword).isSome := Arguments.mem_names.not.1 hself
  rw [call, if_neg hnone, h, Traced.ofExcept_error, Traced.fail_bind, Traced.outcome_fail]

theorem outcome_call_append {f : Function} {positional : List Value}
    {keywords bound extra : Arguments} (hf : f.signature.WellFormed)
    (hcontexts : ((contexts ++ others).map (·.1)).Nodup)
    (hsingle : ∀ e ∈ contexts ++ others, ∃ p ∈ f.signature, p.name = e.1 ∧ ¬ p.kind.gathers)
    (hself : receiverKeyword ∉ keywords.names)
    (hbound : f.signature.bind positional keywords = .ok bound)
    (hvalue : ∀ p ∈ f.signature, (bound.lookup p.name).or (leftOut p) = some (value p.name))
    (hsuits : f.signature.Suits extra value) :
    (call ⟨f, contexts ++ others⟩ positional keywords s).outcome = (do
      let first ← handlesOf f.name s value contexts
      let second ← handlesOf f.name s value others
      .ok (f.signature.assign (second.overlay (first.overlay value)))) := by
  rw [outcome_call hf hcontexts hsingle hself hbound hvalue hsuits, handlesOf_append]
  cases handlesOf f.name s value contexts with
  | error fault => rfl
  | ok first =>
    cases handlesOf f.name s value others with
    | error fault => rfl
    | ok second =>
      exact congrArg (fun value => Except.ok (f.signature.assign value)) Arguments.overlay_append

/-- Decorating a decorated function with names of parameters changes nothing. -/
theorem make_decorated {d : Decorated} (hcontexts : (contexts.map (·.1)).Nodup)
    (hnames : ∀ e ∈ contexts, e.1 ∈ d.function.signature.map (·.name)) :
    make (.decorated d) contexts = .ok d := by
  have hplain := make_plain hcontexts hnames
  simp only [make, Decorable.function] at hplain ⊢
  split at hplain
  · rfl
  · cases hplain

end Decorated

/-! ### Wrappers as decorated functions -/

namespace Callable

/-- What can be called stands for what can be decorated: a function for itself, and a wrapper for a
decorated function if it keeps what belongs to that, whatever it was made of. -/
inductive Stands : Callable → Decorable → Prop where
  | plain (f : Function) : Stands (function f) (.plain f)
  | decorated (d : Decorated) {wrapped : Callable} (hname : wrapped.name = d.function.name)
    (hsignature : wrapped.signature = d.function.signature) :
    Stands (wrapper (function d.function) d.contexts d.function.signature wrapped) (.decorated d)

variable {k : Callable} {t : Decorable} {d : Decorated} {contexts : List (String × Context)}

theorem Stands.signature_eq (h : k.Stands t) : k.signature = t.function.signature := by
  cases h with
  | plain f => rfl
  | decorated d hname hsignature => exact hsignature

theorem Stands.wrap (h : k.Stands t) (hmake : Decorated.make t contexts = .ok d) :
    ∃ k', k.wrap contexts = .ok k' ∧ k'.Stands (.decorated d) := by
  have hsignature : k.signature = t.function.signature := h.signature_eq
  simp only [Decorated.make] at hmake
  split at hmake
  next hunknown =>
    refine ⟨_, by simp only [Callable.wrap, hsignature, hunknown]; rfl, ?_⟩
    cases h with
    | plain f =>
      cases hmake
      exact .decorated ⟨f, Decorated.contextsOfPairs contexts⟩ rfl rfl
    | decorated d' hname hsignature =>
      -- the wrapper takes over what the one inside keeps
      cases hmake
      exact .decorated d hname hsignature
  next => cases hmake

theorem Stands.call_eq (h : k.Stands (.decorated d)) (positional : List Value)
    (keywords : Arguments) (s : Stacks) :
    k.call positional keywords s = d.call positional keywords s := by
  cases h with
  | decorated d hname hsignature =>
    have hpassOn (arguments : Arguments) :
        (Traced.ofExcept (d.function.signature.passOn arguments) : Logged Arguments) = (do
          let positional ← Traced.ofExcept (d.function.signature.positionalOf arguments)
          let keywords ← Traced.ofExcept (d.function.signature.keywordsOf arguments)
          Traced.ofExcept (d.function.signature.receive positional keywords)) := by
      rw [Signature.passOn, Traced.ofExcept_bind]
      congr 1
      funext positional
      exact Traced.ofExcept_bind ..
    simp only [Callable.call, Decorated.call, Callable.name, hpassOn]

/-- **A second wrapper resolves nothing.**  Let a function be wrapped with some contexts and then
again with others, which belong to other parameters.

* It is called as the function that was wrapped once, with the first contexts.
* Where a wrapper with all of the contexts cannot bind the arguments of a call, nor can this one,
  for the same reason.
* Otherwise let `value` be what is bound to each parameter, or else what it is given if nothing is.
  If the values for the first contexts load then the function is called: it receives handles of
  these, and all other values as they came.  If those for the added contexts load as well then the
  wrapper with all of the contexts differs from this in the values of the added ones alone, for
  which the function receives handles.  The two come to the same just if each of these values is the
  handle that it has.
* If the values for the added contexts load and some for the first contexts does not, then the two
  fail with the same fault. -/
theorem stacked_call (f : Function) (added contexts : List (String × Context))
    (hf : f.signature.WellFormed) (hcontexts : ((added ++ contexts).map (·.1)).Nodup)
    (hsingle : ∀ e ∈ added ++ contexts, ∃ p ∈ f.signature, p.name = e.1 ∧ ¬ p.kind.gathers) :
    ∃ inner outer single : Callable, (function f).wrap contexts = .ok inner ∧
      inner.wrap added = .ok outer ∧ (function f).wrap (added ++ contexts) = .ok single ∧
      (∀ positional keywords s,
        outer.call positional keywords s = inner.call positional keywords s) ∧
      ∀ (positional : List Value) (keywords : Arguments), keywords.names.Nodup →
        Decorated.receiverKeyword ∉ keywords.names →
        (∀ fault, f.signature.bind positional keywords = .error fault → ∀ s,
          (outer.call positional keywords s).outcome = .error fault ∧
          (single.call positional keywords s).outcome = .error fault) ∧
        ∀ bound, f.signature.bind positional keywords = .ok bound → ∃ value : String → Value,
          (∀ p ∈ f.signature,
            (bound.lookup p.name).or (Signature.leftOut p) = some (value p.name)) ∧
          ∀ s : Stacks,
            ((∀ e ∈ contexts, e.2.Loads (value e.1) s) → ∃ received : String → Value,
              (outer.call positional keywords s).outcome = .ok (f.signature.assign received) ∧
              (∀ e ∈ contexts, ∃ h : Handle, (e.2.load (value e.1) s).outcome = .ok (some h) ∧
                received e.1 = h.toValue) ∧
              (∀ n ∉ contexts.map (·.1), received n = value n) ∧
              ((∀ e ∈ added, e.2.Loads (value e.1) s) → ∃ resolved : String → Value,
                (single.call positional keywords s).outcome =
                  .ok (f.signature.assign resolved) ∧
                (∀ e ∈ added, ∃ h : Handle, (e.2.load (value e.1) s).outcome = .ok (some h) ∧
                  resolved e.1 = h.toValue) ∧
                ∀ n ∉ added.map (·.1), resolved n = received n) ∧
              ((outer.call positional keywords s).outcome =
                  (single.call positional keywords s).outcome ↔
                ∀ e ∈ added, e.2.Keeps (value e.1) s)) ∧
            ((∀ e ∈ added, e.2.Loads (value e.1) s) →
              (¬ ∀ e ∈ contexts, e.2.Loads (value e.1) s) →
              ∃ fault, (outer.call positional keywords s).outcome = .error fault ∧
                (single.call positional keywords s).outcome = .error fault) := by
  have hnames : ∀ e ∈ added ++ contexts, e.1 ∈ f.signature.map (·.name) :=
    Decorated.name_mem_of_single hsingle
  have hsplit := hcontexts
  rw [List.map_append] at hsplit
  obtain ⟨hadded, hfirst, hdisjoint⟩ := List.nodup_append.1 hsplit
  have hsinglefirst : ∀ e ∈ contexts, ∃ p ∈ f.signature, p.name = e.1 ∧ ¬ p.kind.gathers :=
    fun e he => hsingle e (List.mem_append_right _ he)
  -- each of the wrappers stands for a decorated function
  obtain ⟨inner, hinner, hinnerstands⟩ := (Stands.plain f).wrap
    (Decorated.make_plain hfirst fun e he => hnames e (List.mem_append_right _ he))
  obtain ⟨outer, houter, houterstands⟩ := hinnerstands.wrap
    (Decorated.make_decorated hadded fun e he => hnames e (List.mem_append_left _ he))
  obtain ⟨single, hsinglewrap, hsinglestands⟩ := (Stands.plain f).wrap
    (Decorated.make_plain hcontexts hnames)
  refine ⟨inner, outer, single, hinner, houter, hsinglewrap, fun positional keywords s => ?_, ?_⟩
  · rw [houterstands.call_eq, hinnerstands.call_eq]
  intro positional keywords hkeywords hself
  constructor
  · intro fault hbind s
    rw [houterstands.call_eq, hsinglestands.call_eq]
    exact ⟨Decorated.outcome_call_of_bind_error hself hbind,
      Decorated.outcome_call_of_bind_error hself hbind⟩
  intro bound hbound
  obtain ⟨value, extra, hvalue, hsuits⟩ := Signature.suits_of_bind hf hkeywords hbound
  refine ⟨value, hvalue, fun s => ?_⟩
  rw [houterstands.call_eq, hsinglestands.call_eq,
    Decorated.outcome_call hf hfirst hsinglefirst hself hbound hvalue hsuits,
    Decorated.outcome_call_append hf hcontexts hsingle hself hbound hvalue hsuits]
  constructor
  · intro hloads
    obtain ⟨given, hgiven⟩ := (Decorated.exists_handlesOf_iff f.name).2 hloads
    have hgivennames : given.names = contexts.map (·.1) := Decorated.names_of_handlesOf hgiven
    rw [hgiven]
    refine ⟨given.overlay value, rfl, fun e he => ?_, fun n hn => ?_, fun hloadsadded => ?_, ?_⟩
    · obtain ⟨h, hload, hoverlay⟩ := Decorated.overlay_handlesOf hfirst hgiven he
      exact ⟨h, hload, hoverlay value⟩
    · exact Arguments.overlay_of_not_mem (hgivennames ▸ hn)
    · obtain ⟨others, hothers⟩ := (Decorated.exists_handlesOf_iff f.name).2 hloadsadded
      have hothersnames : others.names = added.map (·.1) := Decorated.names_of_handlesOf hothers
      rw [hothers]
      refine ⟨given.overlay (others.overlay value), rfl, fun e he => ?_, fun n hn => ?_⟩
      · obtain ⟨h, hload, hoverlay⟩ := Decorated.overlay_handlesOf hadded hothers he
        have hname : e.1 ∉ given.names := by
          rw [hgivennames]
          exact fun hmem => hdisjoint e.1 (List.mem_map_of_mem he) e.1 hmem rfl
        exact ⟨h, hload, (Arguments.overlay_of_not_mem hname).trans (hoverlay value)⟩
      · exact Arguments.overlay_congr (Arguments.overlay_of_not_mem (hothersnames ▸ hn))
    · exact Decorated.ok_assign_eq_iff hcontexts (fun e he => hnames e (List.mem_append_left _ he))
        hgivennames
  · intro hloadsadded hloads
    obtain ⟨others, hothers⟩ := (Decorated.exists_handlesOf_iff f.name).2 hloadsadded
    cases hgiven : Decorated.handlesOf f.name s value contexts with
    | ok given => exact absurd ((Decorated.exists_handlesOf_iff f.name).1 ⟨given, hgiven⟩) hloads
    | error fault =>
      rw [hothers]
      exact ⟨fault, rfl, rfl⟩

/-- A call of two parameters that are left out: the added context has a default for its parameter,
which the function does not receive. -/
theorem stacked_call_of_two_left_out :
    let c : Context := ⟨0, .integer, "int"⟩
    let f : Function :=
      ⟨"f", [⟨"a", .positionalOrKeyword, some .none⟩, ⟨"b", .positionalOrKeyword, some .none⟩],
        none⟩
    let s := Stacks.empty.set c [.int 1]
    f.signature.WellFormed ∧ (([("a", c)] ++ [("b", c)]).map (·.1)).Nodup ∧
    (∀ e ∈ [("a", c)] ++ [("b", c)], ∃ p ∈ f.signature, p.name = e.1 ∧ ¬ p.kind.gathers) ∧
    f.signature.bind [] [] = .ok [] ∧ c.Loads .none s ∧ ¬ c.Keeps .none s ∧
    ∃ inner outer single : Callable, (function f).wrap [("b", c)] = .ok inner ∧
      inner.wrap [("a", c)] = .ok outer ∧
      (function f).wrap ([("a", c)] ++ [("b", c)]) = .ok single ∧
      (outer.call [] [] s).outcome = .ok [("a", .none), ("b", .handle .resolved (.int 1))] ∧
      (outer.call [] [] s).outcome ≠ (single.call [] [] s).outcome := by
  intro c f s
  have hf : f.signature.WellFormed := by decide
  have hcontexts : (([("a", c)] ++ [("b", c)]).map (·.1)).Nodup := by decide
  have hsingle : ∀ e ∈ [("a", c)] ++ [("b", c)],
      ∃ p ∈ f.signature, p.name = e.1 ∧ ¬ p.kind.gathers := by
    simp [f, ParameterKind.gathers]
  have hbind : f.signature.bind [] [] = .ok [] := rfl
  have hloads : c.Loads .none s := ⟨⟨.resolved, .int 1⟩, rfl⟩
  have hkeeps : ¬ c.Keeps .none s := by
    rintro ⟨h, -, hnone⟩
    cases hnone
  obtain ⟨inner, outer, single, hinner, houter, hsinglewrap, -, hcall⟩ :=
    stacked_call f [("a", c)] [("b", c)] hf hcontexts hsingle
  obtain ⟨value, hvalue, hbound⟩ := (hcall [] [] (by decide) (by decide)).2 [] hbind
  have ha : value "a" = .none :=
    (Option.some.inj (hvalue ⟨"a", .positionalOrKeyword, some .none⟩ (by simp [f]))).symm
  have hb : value "b" = .none :=
    (Option.some.inj (hvalue ⟨"b", .positionalOrKeyword, some .none⟩ (by simp [f]))).symm
  obtain ⟨received, hreceived, hhandles, hothers, -, hiff⟩ := (hbound s).1 (by
    rintro e he
    cases List.mem_singleton.1 he
    exact hb ▸ hloads)
  refine ⟨hf, hcontexts, hsingle, hbind, hloads, hkeeps, inner, outer, single, hinner, houter,
    hsinglewrap, ?_, fun h => ?_⟩
  · obtain ⟨h, hload, hh⟩ := hhandles ("b", c) (List.mem_singleton.2 rfl)
    rw [hb] at hload
    cases hload
    have hplain : received "a" = .none := (hothers "a" (by decide)).trans ha
    rw [hreceived]
    simp only [Signature.assign, f, List.map_cons, List.map_nil, hh, hplain]
    rfl
  · exact hkeeps (ha ▸ hiff.1 h ("a", c) (List.mem_singleton.2 rfl))

/-- The call of two parameters that are left out, which the wrapper with both contexts resolves. -/
theorem stacked_call_differs :
    let c : Context := ⟨0, .integer, "int"⟩
    let f : Function :=
      ⟨"f", [⟨"a", .positionalOrKeyword, some .none⟩, ⟨"b", .positionalOrKeyword, some .none⟩],
        none⟩
    let s := Stacks.empty.set c [.int 1]
    ∃ inner outer single : Callable, (function f).wrap [("b", c)] = .ok inner ∧
      inner.wrap [("a", c)] = .ok outer ∧ (function f).wrap [("a", c), ("b", c)] = .ok single ∧
      (outer.call [] [] s).outcome = .ok [("a", .none), ("b", .handle .resolved (.int 1))] ∧
      (single.call [] [] s).outcome =
        .ok [("a", .handle .resolved (.int 1)), ("b", .handle .resolved (.int 1))] ∧
      (outer.call [] [] s).outcome ≠ (single.call [] [] s).outcome := by
  intro c f s
  have hmake : Decorated.make (.plain f) [("b", c)] = .ok ⟨f, [("b", c)]⟩ :=
    Decorated.make_plain (by decide) (by simp [f])
  have hagain : Decorated.make (.decorated ⟨f, [("b", c)]⟩) [("a", c)] = .ok ⟨f, [("b", c)]⟩ :=
    Decorated.make_decorated (by decide) (by simp [f])
  have hboth : Decorated.make (.plain f) [("a", c), ("b", c)] = .ok ⟨f, [("a", c), ("b", c)]⟩ :=
    Decorated.make_plain (by decide) (by simp [f])
  obtain ⟨inner, hinner, hinnerstands⟩ := (Stands.plain f).wrap hmake
  obtain ⟨outer, houter, houterstands⟩ := hinnerstands.wrap hagain
  obtain ⟨single, hsinglewrap, hsinglestands⟩ := (Stands.plain f).wrap hboth
  have houtercall : (outer.call [] [] s).outcome =
      .ok [("a", .none), ("b", .handle .resolved (.int 1))] := by
    rw [houterstands.call_eq]
    rfl
  have hsinglecall : (single.call [] [] s).outcome =
      .ok [("a", .handle .resolved (.int 1)), ("b", .handle .resolved (.int 1))] := by
    rw [hsinglestands.call_eq]
    rfl
  refine ⟨inner, outer, single, hinner, houter, hsinglewrap, houtercall, hsinglecall, ?_⟩
  rw [houtercall, hsinglecall]
  simp

end Callable

end Strided.Defaults
