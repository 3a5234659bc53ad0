import Strided.Proofs.Defaults.Invariant
import Strided.Proofs.Defaults.Resolution
import Strided.Proofs.Defaults.Script

/-!
# Types of defaults

Every default on a stack is of the type of its context.  The invariant is kept by each move, since
only `push` puts a value on a stack and it checks the type, and so it holds at all points of a run
that starts with no defaults, in its threads and copies too (`Program.states_typed`).

It is what makes a resolved handle as good as an explicit one: the value of an explicit handle has
just been checked, that of a resolved one was checked when it was pushed
(`Context.resolve_admits`).

An operation that fails has done nothing to the stacks.  And what holds of all runs of programs holds
of scripts, which do to the stacks what programs do (`Step.performs_runAll`).
-/

namespace Strided.Defaults

/-! ### Stacks of the right type -/

/-- Every default is of the type of its context. -/
def Stacks.Typed (s : Stacks) : Prop := ∀ c : Context, ∀ v ∈ c.stack s, c.type.admits v

namespace Stacks

theorem typed_empty : Stacks.empty.Typed := fun _ _ hv => absurd hv List.not_mem_nil

theorem Typed.moves {s t : Stacks} (hs : s.Typed) (h : s.Moves t) : t.Typed := by
  intro d w hw
  cases h with
  | stay => exact hs d w hw
  | @push c v hv =>
    by_cases hd : d = c
    · subst hd
      rw [Context.stack, set_self] at hw
      rcases List.mem_cons.1 hw with rfl | hw
      · exact hv
      · exact hs d w hw
    · rw [Context.stack, set_of_ne s _ hd] at hw
      exact hs d w hw
  | @pop c v rest hrest =>
    by_cases hd : d = c
    · subst hd
      rw [Context.stack, set_self] at hw
      refine hs d w ?_
      rw [Context.stack, hrest]
      exact List.mem_cons_of_mem v hw
    · rw [Context.stack, set_of_ne s _ hd] at hw
      exact hs d w hw

end Stacks

theorem Program.states_typed {α : Type} (p : Program α) {s : Stacks} (hs : s.Typed) :
    ∀ t ∈ p.states (fun _ => true) s, t.Typed :=
  p.states_invariant (fun hs h (_ : True) => hs.moves h) (fun _ => Stacks.typed_empty)
    (fun _ _ => rfl) hs fun _ _ => trivial

/-- Where every default is of the right type, so is what a handle refers to. -/
theorem Context.resolve_admits {c : Context} {v : Value} {s : Stacks} {h : Handle} (hs : s.Typed)
    (hh : (c.resolve v s).outcome = .ok h) : c.type.admits h.referent := by
  by_cases hv : Handle.unwrap v = .none
  · obtain ⟨top, rest, hstack, rfl⟩ := eq_resolved_of_resolve hv hh
    exact hs c top (hstack ▸ List.mem_cons_self ..)
  · obtain ⟨hadmits, rfl⟩ := eq_explicit_of_resolve hv hh
    exact hadmits

/-- A handle is resolved if the value is left out, and refers to the top of the stack then.  The
handle of any other value is the same for all stacks. -/
theorem Context.resolve_variant {c : Context} {v : Value} {s : Stacks} {h : Handle}
    (hh : (c.resolve v s).outcome = .ok h) :
    (h.variant = .resolved ↔ Handle.unwrap v = .none) ∧
    (Handle.unwrap v = .none → (c.stack s).head? = some h.referent) ∧
    (Handle.unwrap v ≠ .none → h = ⟨.explicit, Handle.unwrap v⟩ ∧
      ∀ t : Stacks, (c.resolve v t).outcome = .ok h ∧ (c.load v t).outcome = .ok (some h)) := by
  by_cases hv : Handle.unwrap v = .none
  · obtain ⟨top, rest, hstack, rfl⟩ := eq_resolved_of_resolve hv hh
    exact ⟨iff_of_true rfl hv, fun _ => congrArg List.head? hstack, fun h => absurd hv h⟩
  · obtain ⟨hadmits, rfl⟩ := eq_explicit_of_resolve hv hh
    have hresolve (t : Stacks) : (c.resolve v t).outcome = .ok ⟨.explicit, Handle.unwrap v⟩ := by
      rw [resolve_of_admits hv hadmits]
      rfl
    exact ⟨iff_of_false nofun hv, fun h => absurd h hv,
      fun _ => ⟨rfl, fun t => ⟨hresolve t, outcome_load_eq_some_iff.2 (hresolve t)⟩⟩⟩

/-! ### What fails does nothing -/

theorem Context.state_pop_of_error {c : Context} {s : Stacks} {e : Fault}
    (h : (c.pop s).outcome = .error e) : (c.pop s).state = s := by
  cases hs : c.stack s with
  | nil =>
    rw [pop_of_stack_nil hs]
    rfl
  | cons v rest =>
    obtain ⟨records, hpop⟩ := pop_of_stack_cons hs
    rw [hpop] at h
    cases h

theorem Operation.state_run_of_error {α : Type} {op : Operation α} {s : Stacks} {e : Fault}
    (h : (op.run s).outcome = .error e) : (op.run s).state = s := by
  cases op with
  | push c v => exact congrArg Reply.state (Context.push_of_error h)
  | pop c => exact Context.state_pop_of_error h
  | current | describe | resolve | load | call => rfl

namespace Program

/-- **Defaults are of the right type, and what fails does nothing**, at every point of every run
that starts with no defaults.

* Every default is of the type of its context.
* A handle that resolving or loading a value answers refers to a value of the type of the context.
  It is resolved, and refers to the top of the stack, if the value is left out.  Otherwise it is
  explicit, refers to the value, and is the same for all stacks.
* An operation that fails leaves the stacks as they are.  So does binding a default that is refused,
  and calling a decorated function with arguments that are not bound or loaded, and neither the
  block nor the function runs then.
* A script that goes on from here does to the stacks, and logs, what some program does, and so it
  leaves every default of the type of its context. -/
theorem reached_states_sound {α β : Type} (p : Program α) (s : Stacks)
    (hs : s ∈ p.states (fun _ => true) .empty) :
    (∀ c : Context, ∀ v ∈ c.stack s, c.type.admits v) ∧
    (∀ (c : Context) (v : Value) (h : Handle),
      (c.resolve v s).outcome = .ok h ∨ (c.load v s).outcome = .ok (some h) →
      c.type.admits h.referent ∧
      (h.variant = .resolved ↔ Handle.unwrap v = .none) ∧
      (Handle.unwrap v = .none → (c.stack s).head? = some h.referent) ∧
      (Handle.unwrap v ≠ .none → h = ⟨.explicit, Handle.unwrap v⟩ ∧
        ∀ t : Stacks, (c.resolve v t).outcome = .ok h ∧ (c.load v t).outcome = .ok (some h))) ∧
    (∀ (op : Operation β) (e : Fault), (op.run s).outcome = .error e → (op.run s).state = s) ∧
    (∀ (c : Context) (v : Value) (e : Fault), (c.push v s).outcome = .error e →
      ∀ body : Stacks → Reply Stacks β, c.bind v body s = .fault s e) ∧
    (∀ (d : Decorated) (positional : List Value) (keywords : Arguments) (e : Fault),
      (d.call positional keywords s).outcome = .error e → ∀ body : Arguments → Program β,
        (Program.call d positional keywords body).run s =
          ⟨s, (d.call positional keywords s).events, .error e⟩) ∧
    ∀ (objects : Objects) (session : Session) (steps : List Step), session.defaults = s →
      let (ended, results) := Step.runAll objects session steps
      (∃ q : Program Unit, q.run s = ⟨ended.defaults, results.flatMap (·.2), .ok ()⟩) ∧
        ∀ c : Context, ∀ v ∈ c.stack ended.defaults, c.type.admits v := by
  have htyped : s.Typed := p.states_typed Stacks.typed_empty s hs
  refine ⟨htyped, fun c v h hh => ?_, fun op e => Operation.state_run_of_error,
    fun c v e => Context.bind_of_error, fun d positional keywords e => run_call_of_error, ?_⟩
  · have hresolve : (c.resolve v s).outcome = .ok h :=
      hh.elim id Context.outcome_load_eq_some_iff.1
    exact ⟨Context.resolve_admits htyped hresolve, Context.resolve_variant hresolve⟩
  · rintro objects session steps rfl
    obtain ⟨q, hq⟩ := Step.performs_runAll objects session steps
    have hend := q.states_typed htyped _ q.run_mem_states
    rw [hq] at hend
    exact ⟨⟨q, hq⟩, hend⟩

/-- A thread pushes a default of its own; at that point a value that is left out resolves to it, and
one of the wrong type is neither pushed nor bound, and no function is called with it. -/
theorem reached_states_sound_in_thread :
    let c : Context := ⟨0, .integer, "int"⟩
    let pushing : Program Unit := .perform (.push c (.int 2)) .done
    let p : Program Unit := .perform (.push c (.int 1)) fun _ => .within .thread pushing .done
    let s := Stacks.empty.set c [.int 2]
    let d : Decorated := ⟨⟨"f", [⟨"a", .positionalOnly, none⟩], none⟩, [("a", c)]⟩
    s ∈ p.states (fun _ => true) .empty ∧
    (∀ v ∈ c.stack s, c.type.admits v) ∧
    (c.resolve .none s).outcome = .ok ⟨.resolved, .int 2⟩ ∧ c.type.admits (.int 2) ∧
    (∀ t, (c.resolve (.handle .resolved (.bool true)) t).outcome = .ok ⟨.explicit, .bool true⟩) ∧
    ((Operation.push c (.text "x")).run s).outcome = .error (.wrongType "int" "str") ∧
    ((Operation.push c (.text "x")).run s).state = s ∧
    c.bind (.text "x") pushing.run s = .fault s (.wrongType "int" "str") ∧
    (d.call [.text "x"] [] s).outcome = .error (.wrongArgument "f" "a" "int" "str") ∧
    (Program.call d [.text "x"] [] fun _ => pushing).run s =
      ⟨s, [], .error (.wrongArgument "f" "a" "int" "str")⟩ := by
  intro c pushing p s d
  have hs : s ∈ p.states (fun _ => true) .empty :=
    mem_states_perform.2 (.inr (mem_states_within.2 (.inr (.inl
      ⟨rfl, rfl, mem_states_perform.2 (.inr (mem_states_self _))⟩))))
  obtain ⟨htyped, hhandles, hops, hbind, hcall, -⟩ := reached_states_sound (β := Unit) p s hs
  have hresolved : (c.resolve .none s).outcome = .ok ⟨.resolved, .int 2⟩ := rfl
  have hexplicit : (c.resolve (.handle .resolved (.bool true)) s).outcome =
      .ok ⟨.explicit, .bool true⟩ := rfl
  obtain ⟨-, -, -, hsame⟩ := hhandles c _ _ (.inl hexplicit)
  have hpush : (c.push (.text "x") s).outcome = .error (.wrongType "int" "str") := rfl
  have hrefused : (d.call [.text "x"] [] s).outcome =
    .error (.wrongArgument "f" "a" "int" "str") := rfl
  exact ⟨hs, htyped c, hresolved, (hhandles c _ _ (.inl hresolved)).1,
    fun t => ((hsame nofun).2 t).1, hpush, hops (.push c (.text "x")) _ hpush,
    hbind c _ _ hpush pushing.run, hrefused, (hcall d _ _ _ hrefused _).trans rfl⟩

end Program

end Strided.Defaults
