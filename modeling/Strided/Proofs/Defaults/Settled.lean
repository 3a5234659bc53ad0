import Mathlib.Logic.Relation
import Strided.Proofs.Defaults.Received
import Strided.Proofs.Defaults.Typing

/-!
# Handles that are resolved again

A handle that refers to a value is settled: resolved again against its context it is an explicit
handle of the same value, whatever the stacks are by then, since the value was of the right type when
the handle was made (`Context.resolve_toValue`).  So it may be passed on from one decorated function
to the next, and each of them receives the same value (`Context.Relays.referent_eq`).

One that refers to nothing is not.  Nothing can be a default of a context whose type admits it, but
resolving takes a handle off before it asks whether the value is left out, and so a handle of nothing
is resolved like a value that is left out (`Context.resolve_toValue_none`).
-/

namespace Strided.Defaults

/-! ### Resolving a handle -/

namespace Context

variable {c : Context} {h : Handle}

theorem resolve_toValue (ht : c.type.admits h.referent) (hr : h.referent ≠ .none) (t : Stacks) :
    c.resolve h.toValue t = pure ⟨.explicit, h.referent⟩ :=
  resolve_of_admits (v := h.toValue) hr ht

theorem load_toValue (ht : c.type.admits h.referent) (hr : h.referent ≠ .none) (t : Stacks) :
    c.load h.toValue t = pure (some ⟨.explicit, h.referent⟩) :=
  load_of_admits (v := h.toValue) hr ht

theorem resolve_toValue_none (hr : h.referent = .none) (t : Stacks) :
    c.resolve h.toValue t = c.resolve .none t := by
  obtain ⟨variant, referent⟩ := h
  subst hr
  rfl

/-- What the handle of a handle refers to is what the handle refers to. -/
theorem referent_of_load {variant : Variant} {r : Value} {t : Stacks} (hr : r ≠ .none)
    (h' : (c.load (.handle variant r) t).outcome = .ok (some h)) : h = ⟨.explicit, r⟩ :=
  (eq_explicit_of_resolve (v := .handle variant r) hr (outcome_load_eq_some_iff.1 h')).2

end Context

/-! ### Passing a handle on -/

namespace Decorated

variable {f : Function} {contexts : List (String × Context)} {d : Decorated}

theorem eq_of_make_plain (hcontexts : (contexts.map (·.1)).Nodup)
    (h : make (.plain f) contexts = .ok d) :
    d = ⟨f, contexts⟩ ∧ ∀ e ∈ contexts, e.1 ∈ f.signature.map (·.name) := by
  have hnames : ∀ e ∈ contexts, e.1 ∈ f.signature.map (·.name) := by
    intro e he
    by_contra hname
    have hunknown : e.1 ∈ unknownNames f.signature (contexts.map (·.1)) := by
      rw [unknownNames, List.mem_mergeSort, List.mem_filter]
      refine ⟨List.mem_map_of_mem he, ?_⟩
      simpa using hname
    cases hu : unknownNames f.signature (contexts.map (·.1)) with
    | nil =>
      rw [hu] at hunknown
      cases hunknown
    | cons n rest =>
      simp only [make, contextsOfPairs_of_nodup hcontexts, Decorable.function, hu] at h
      cases h
  rw [make_plain hcontexts hnames] at h
  exact ⟨(Except.ok.inj h).symm, hnames⟩

end Decorated

/-- A decorated function that resolves a parameter against the context is called with `v` for it, and
receives `w`. -/
inductive Context.Relays (c : Context) : (v w : Value) → Prop where
  | call {f : Function} {contexts : List (String × Context)} {d : Decorated}
    {positional : List Value} {keywords bound arguments : Arguments} {s : Stacks} {n : String}
    {v w : Value} (wellFormed : f.signature.WellFormed) (nodup : (contexts.map (·.1)).Nodup)
    (decorated : Decorated.make (.plain f) contexts = .ok d) (named : (n, c) ∈ contexts)
    (apart : keywords.names.Nodup) (bind : f.signature.bind positional keywords = .ok bound)
    (passed : bound.lookup n = some v)
    (called : (d.call positional keywords s).outcome = .ok arguments)
    (received : arguments.lookup n = some w) : c.Relays v w

namespace Context

variable {c : Context} {v w : Value}

theorem Relays.referent_eq (h : c.Relays v w) {variant : Variant} {r : Value}
    (hv : v = .handle variant r) (hr : r ≠ .none) : ∃ variant', w = .handle variant' r := by
  obtain ⟨wellFormed, nodup, decorated, named, apart, bind, passed, called, received⟩ := h
  obtain ⟨rfl, hnames⟩ := Decorated.eq_of_make_plain nodup decorated
  obtain ⟨value, replaced, hvalue, rfl, hhandles, hothers⟩ :=
    Decorated.received_of_call wellFormed nodup hnames apart bind called
  obtain ⟨p, hp, hname⟩ := List.mem_map.1 (hnames _ named)
  change p.name = _ at hname
  subst hname
  -- the parameter was given the handle
  have hpassed : value p.name = .handle variant r := by
    have hsome := hvalue p hp
    rw [passed, Option.some_or, hv] at hsome
    exact (Option.some.inj hsome).symm
  rw [Signature.lookup_assign hp] at received
  have hw : replaced p.name = w := Option.some.inj received
  by_cases hgathers : p.kind.gathers
  · rw [hothers p hp (.inl hgathers), hpassed] at hw
    exact ⟨variant, hw.symm⟩
  · obtain ⟨h, hload, hh⟩ := hhandles p hp hgathers c named
    rw [hpassed] at hload
    rw [hh, referent_of_load hr hload] at hw
    exact ⟨.explicit, hw.symm⟩

/-- However many functions a handle is passed on through, it refers to the same value. -/
theorem referent_eq_of_relays {variant : Variant} {r : Value}
    (h : Relation.ReflTransGen c.Relays (.handle variant r) w) (hr : r ≠ .none) :
    ∃ variant', w = .handle variant' r := by
  induction h with
  | refl => exact ⟨variant, rfl⟩
  | tail _ hlast ih =>
    obtain ⟨variant', hv⟩ := ih
    exact hlast.referent_eq hv hr

/-- **A handle of a value is settled for good.**  Let a handle come of resolving or loading a value
at some point of a run.

* If it refers to a value then resolving or loading it again, whatever the stacks are by then, gives
  an explicit handle of the same value without a look at the stacks, and every function that it is
  passed on to through others, all of them over the same context, receives a handle of the same
  value.
* If it refers to nothing, for which the type of the context has to admit nothing, then resolving it
  again is resolving a value that is left out. -/
theorem handle_settled {α : Type} (p : Program α) (s : Stacks)
    (hs : s ∈ p.states (fun _ => true) .empty) (c : Context) (v : Value) (h : Handle)
    (hh : (c.resolve v s).outcome = .ok h ∨ (c.load v s).outcome = .ok (some h)) :
    (h.referent ≠ .none →
      (∀ t : Stacks, c.resolve h.toValue t = pure ⟨.explicit, h.referent⟩ ∧
        c.load h.toValue t = pure (some ⟨.explicit, h.referent⟩)) ∧
      ∀ w, Relation.ReflTransGen c.Relays h.toValue w → ∃ variant, w = .handle variant h.referent) ∧
    (h.referent = .none → c.type.admits .none ∧
      ∀ t : Stacks, c.resolve h.toValue t = c.resolve .none t) := by
  have hresolve : (c.resolve v s).outcome = .ok h :=
    hh.elim (fun hresolve => hresolve) outcome_load_eq_some_iff.1
  have htyped : s.Typed := p.states_typed Stacks.typed_empty s hs
  have hadmits : c.type.admits h.referent := resolve_admits htyped hresolve
  constructor
  · intro hr
    refine ⟨fun t => ⟨resolve_toValue hadmits hr t, load_toValue hadmits hr t⟩, fun w hw => ?_⟩
    exact referent_eq_of_relays hw hr
  · intro hr
    exact ⟨hr ▸ hadmits, fun t => resolve_toValue_none hr t⟩

/-- A handle of a default that has been taken away, passed on through a function that is called with
it twice. -/
theorem handle_settled_after_pop :
    let c : Context := ⟨0, .anything, "object"⟩
    let p : Program Unit := .perform (.push c (.int 1)) fun _ => .done (.ok ())
    let s := Stacks.empty.set c [.int 1]
    let h : Handle := ⟨.resolved, .int 1⟩
    let f : Function := ⟨"f", [⟨"a", .positionalOnly, none⟩], none⟩
    s ∈ p.states (fun _ => true) .empty ∧ (c.resolve .none s).outcome = .ok h ∧
    h.referent ≠ .none ∧ c.resolve h.toValue .empty = pure ⟨.explicit, .int 1⟩ ∧
    (Decorated.call ⟨f, [("a", c)]⟩ [h.toValue] [] .empty).outcome =
      .ok [("a", .handle .explicit (.int 1))] ∧
    ∃ variant, Value.handle .explicit (.int 1) = .handle variant h.referent := by
  intro c p s h f
  have hs : s ∈ p.states (fun _ => true) .empty :=
    Program.mem_states_perform.2 (.inr (Program.mem_states_self _))
  have hresolve : (c.resolve .none s).outcome = .ok h := rfl
  have hreferent : h.referent ≠ .none := nofun
  obtain ⟨hsettled, -⟩ := handle_settled p s hs c .none h (.inl hresolve)
  obtain ⟨hagain, hpassed⟩ := hsettled hreferent
  have hcall : (Decorated.call ⟨f, [("a", c)]⟩ [h.toValue] [] .empty).outcome =
    .ok [("a", .handle .explicit (.int 1))] := rfl
  have hmake : Decorated.make (.plain f) [("a", c)] = .ok ⟨f, [("a", c)]⟩ :=
    Decorated.make_plain (by decide) (by simp [f])
  have hbind : f.signature.bind [h.toValue] [] = .ok [("a", h.toValue)] := rfl
  have honce : c.Relays h.toValue (.handle .explicit (.int 1)) :=
    .call (by decide) (by decide) hmake (List.mem_singleton.2 rfl) (by decide) hbind rfl hcall rfl
  exact ⟨hs, hresolve, hreferent, (hagain .empty).1, hcall, hpassed _ (.single honce)⟩

/-- Nothing is a default of a context that takes any object, and a handle of it is made.  Once it is
no longer the current default the handle cannot be resolved again, and with another default it is
resolved to that one. -/
theorem handle_of_nothing_unsettled :
    let c : Context := ⟨0, .anything, "object"⟩
    let p : Program Unit := .perform (.push c .none) fun _ => .perform (.resolve c .none) fun _ =>
      .perform (.pop c) fun _ => .perform (.push c (.int 1)) fun _ => .done (.ok ())
    let s := Stacks.empty.set c [.none]
    let t := s.set c []
    let u := t.set c [.int 1]
    let h : Handle := ⟨.resolved, .none⟩
    (∀ x ∈ [s, t, u], x ∈ p.states (fun _ => true) .empty) ∧
    (c.resolve .none s).outcome = .ok h ∧
    (c.resolve h.toValue t).outcome = .error (.noCurrent "object") ∧
    (c.resolve h.toValue u).outcome = .ok ⟨.resolved, .int 1⟩ ∧
    ¬ ∀ x ∈ p.states (fun _ => true) .empty,
      ∃ h' : Handle, (c.resolve h.toValue x).outcome = .ok h' ∧ h'.referent = h.referent := by
  intro c p s t u h
  have hs : s ∈ p.states (fun _ => true) .empty :=
    Program.mem_states_perform.2 (.inr (Program.mem_states_self _))
  have ht : t ∈ p.states (fun _ => true) .empty :=
    Program.mem_states_perform.2 (.inr (Program.mem_states_perform.2 (.inr
      (Program.mem_states_perform.2 (.inr (Program.mem_states_self _))))))
  have hu : u ∈ p.states (fun _ => true) .empty :=
    Program.mem_states_perform.2 (.inr (Program.mem_states_perform.2 (.inr
      (Program.mem_states_perform.2 (.inr (Program.mem_states_perform.2 (.inr
        (Program.mem_states_self _))))))))
  have hfails : (c.resolve h.toValue t).outcome = .error (.noCurrent "object") := rfl
  refine ⟨?_, rfl, hfails, rfl, fun hclaim => ?_⟩
  · intro x hx
    rcases List.mem_cons.1 hx with rfl | hx
    · exact hs
    rcases List.mem_cons.1 hx with rfl | hx
    · exact ht
    · rw [List.mem_singleton.1 hx]
      exact hu
  · obtain ⟨h', hok, -⟩ := hclaim t ht
    rw [hfails] at hok
    cases hok

end Context

end Strided.Defaults
