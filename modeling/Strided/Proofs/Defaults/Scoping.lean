import Strided.Proofs.Defaults.Invariant

/-!
# Bound defaults

A default that is bound for a block is gone after it, and the stack of its context is what it was,
as long as the block pushes and pops in balance: it does not pop what lay below the default, and
what it leaves is one entry more than there was (`Context.bind_restores`).  How the block ends, and
what else it does with this context and with others, makes no difference.

The invariant is that what was on the stack at first stays below everything else.  A move can only
break it by making the stack shorter than it was at first.
-/

namespace Strided.Defaults

namespace Program

variable {α : Type} {c : Context} {s : Stacks}

/-! ### What lies below -/

/-- What lies below is moved only if the stack becomes shorter than that. -/
theorem suffix_of_moves {base : List Value} {s t : Stacks} (hs : base <:+ c.stack s)
    (h : s.Moves t) (ht : base.length ≤ (c.stack t).length) : base <:+ c.stack t := by
  cases h with
  | stay => exact hs
  | @push d v hv =>
    by_cases hd : c = d
    · subst hd
      rw [Context.stack, Stacks.set_self]
      exact hs.trans (List.suffix_cons v _)
    · rwa [Context.stack, Stacks.set_of_ne s _ hd]
  | @pop d v rest hrest =>
    by_cases hd : c = d
    · subst hd
      rw [Context.stack, Stacks.set_self] at ht ⊢
      rw [Context.stack, hrest] at hs
      exact List.suffix_of_suffix_length_le hs (List.suffix_cons v rest) ht
    · rwa [Context.stack, Stacks.set_of_ne s _ hd]

/-- While the stack of a context stays as deep as something that lies at its bottom, that stays
there. -/
theorem suffix_of_states {base : List Value} (p : Program α) (hs : base <:+ c.stack s)
    (h : ∀ t ∈ p.ownStates s, base.length ≤ (c.stack t).length) :
    base <:+ c.stack (p.run s).state :=
  have hthread (h : !Scope.thread.isApart) : base <:+ c.stack .empty := absurd h (by decide)
  p.states_invariant suffix_of_moves hthread (fun _ _ => rfl) hs h _ p.run_mem_states

end Program

/-! ### Programs that only bind -/

theorem Operation.stack_run_of_changed? {α : Type} {c : Context} {op : Operation α}
    (h : op.changed? ≠ some c) (s : Stacks) : c.stack (op.run s).state = c.stack s := by
  cases op with
  | push d v => exact Context.stack_push_of_ne (fun hd => h (congrArg some hd.symm)) v s
  | pop d => exact Context.stack_pop_of_ne (fun hd => h (congrArg some hd.symm)) s
  | current | describe | resolve | load | call => rfl

theorem Scope.stack_run_of_stack_body {α : Type} {c : Context} {scope : Scope}
    {body : Stacks → Reply Stacks α} {s : Stacks}
    (h : scope.isApart = false →
      c.stack (body (scope.enter s).state).state = c.stack (scope.enter s).state) :
    c.stack (scope.run body s).state = c.stack s := by
  cases scope with
  | thread | copy => rfl
  | bound d v =>
    have hbody : c.stack (body (d.push v s).state).state = c.stack (d.push v s).state := h rfl
    by_cases hv : d.type.admits v
    · obtain ⟨records, hpush⟩ := Context.push_of_admits (s := s) hv
      rw [state_run_of_entered (congrArg Reply.outcome hpush)]
      by_cases hd : c = d
      · subst hd
        rw [hpush] at hbody ⊢
        obtain ⟨popped, hpop⟩ := Context.pop_of_stack_cons (hbody.trans (s.set_self c _))
        rw [hpop]
        exact Stacks.set_self _ c _
      · rw [Context.stack_pop_of_ne hd, hbody, Context.stack_push_of_ne hd]
    · exact congrArg (c.stack ·.state)
        (Context.bind_of_error (congrArg Reply.outcome (Context.push_of_not_admits hv)) body)

namespace Program

variable {α : Type} {c : Context}

/-- Outside of threads and copies the program neither pushes a default of the context nor pops one.
It may bind defaults of the context. -/
def Spares (c : Context) {α : Type} : Program α → Prop
  | done _ => True
  | perform op next => op.changed? ≠ some c ∧ ∀ r, (next r).Spares c
  | within scope body next => (scope.isApart = false → body.Spares c) ∧ ∀ r, (next r).Spares c

theorem stack_run_of_spares {p : Program α} (h : p.Spares c) (s : Stacks) :
    c.stack (p.run s).state = c.stack s := by
  induction p generalizing s with
  | done outcome => rfl
  | perform op next ih =>
    calc c.stack ((perform op next).run s).state
        = c.stack (op.run s).state := ih _ (h.2 _) _
      _ = c.stack s := Operation.stack_run_of_changed? h.1 s
  | within scope body next ihbody ih =>
    calc c.stack ((within scope body next).run s).state
        = c.stack (scope.run body.run s).state := ih _ (h.2 _) _
      _ = c.stack s := Scope.stack_run_of_stack_body fun hscope => ihbody (h.1 hscope) _

/-- A program that changes stacks by binding defaults only leaves all of them as they were. -/
theorem state_run_of_spares {p : Program α} (h : ∀ c, p.Spares c) (s : Stacks) :
    (p.run s).state = s :=
  funext fun c => stack_run_of_spares (h c) s

end Program

/-! ### Balanced blocks -/

/-- **Binding a default is properly scoped.**  A value of the wrong type is refused: the block does
not run and no stack changes.  Otherwise the block starts with the value as the current default.
If it never takes the stack of the context below what it was before, and leaves one entry more than
that, then the stack is what it was before, no other stack changes but by the block, and what
comes of it is what comes of the block, be it a result or a fault.  A program that changes stacks by
binding defaults only restores all of them, whatever fails in it. -/
theorem Context.bind_restores (c : Context) (v : Value) (s : Stacks) {α : Type} :
    (¬ c.type.admits v → ∀ body : Stacks → Reply Stacks α,
      c.bind v body s = .fault s (.wrongType c.description v.typeName)) ∧
    (c.type.admits v →
      c.current (c.push v s).state = .ok v ∧
      ∀ body : Program α,
        (∀ t ∈ body.ownStates (c.push v s).state, (c.stack s).length ≤ (c.stack t).length) →
        (c.stack (body.run (c.push v s).state).state).length = (c.stack s).length + 1 →
        c.stack (c.bind v body.run s).state = c.stack s ∧
        (∀ d ≠ c, d.stack (c.bind v body.run s).state =
          d.stack (body.run (c.push v s).state).state) ∧
        (c.bind v body.run s).outcome = (body.run (c.push v s).state).outcome) ∧
    ∀ p : Program α, (∀ d, p.Spares d) → (p.run s).state = s := by
  refine ⟨fun hv body => ?_, fun hv => ?_, fun p hp => p.state_run_of_spares hp s⟩
  · exact bind_of_error (congrArg Reply.outcome (push_of_not_admits hv)) body
  · obtain ⟨records, hpush⟩ := push_of_admits (s := s) hv
    have hstack : c.stack (c.push v s).state = v :: c.stack s := by
      rw [hpush]
      exact s.set_self c _
    refine ⟨by simp only [current, hstack], fun body hdepth hend => ?_⟩
    have hok : (c.push v s).outcome = .ok () := congrArg Reply.outcome hpush
    -- one entry above what was there before is one entry and what was there before
    obtain ⟨above, habove⟩ : c.stack s <:+ c.stack (body.run (c.push v s).state).state :=
      body.suffix_of_states (hstack ▸ List.suffix_cons v _) hdepth
    obtain ⟨top, rfl⟩ : ∃ top, above = [top] := by
      rw [← habove, List.length_append] at hend
      exact List.length_eq_one_iff.1 (by omega)
    obtain ⟨popped, hpop⟩ := pop_of_stack_cons habove.symm
    have hstate := Scope.state_run_of_entered hok body.run
    have houtcome := Scope.outcome_run_of_entered hok body.run
    rw [hpop] at hstate houtcome
    refine ⟨?_, fun d hd => ?_, houtcome⟩
    · rw [bind, hstate]
      exact Stacks.set_self _ c _
    · rw [bind, hstate]
      exact Stacks.set_of_ne _ _ hd

/-- A default is bound over another.  The block takes it away and pushes a third; within a further
block it fails to bind one of the wrong type; then it pushes in a thread, and ends with that fault.
-/
theorem Context.bind_restores_after_fault :
    let c : Context := ⟨0, .integer, "int"⟩
    let d : Context := ⟨1, .text, "str"⟩
    let s := Stacks.empty.set c [.int 7]
    let inner : Program Unit :=
      .within (.bound d (.text "x")) (.within (.bound d (.int 3)) (.done (.ok ())) .done)
        fun outcome => .within .thread (.perform (.push c (.int 4)) .done) fun _ => .done outcome
    let body : Program Unit :=
      .perform (.pop c) fun _ => .perform (.push c (.int 9)) fun _ => inner
    ¬ c.type.admits (.text "x") ∧
    c.bind (.text "x") body.run s = .fault s (.wrongType "int" "str") ∧
    c.type.admits (.int 8) ∧ c.current (c.push (.int 8) s).state = .ok (.int 8) ∧
    (∀ t ∈ body.ownStates (c.push (.int 8) s).state, (c.stack s).length ≤ (c.stack t).length) ∧
    (c.stack (body.run (c.push (.int 8) s).state).state).length = (c.stack s).length + 1 ∧
    c.stack (c.bind (.int 8) body.run s).state = [.int 7] ∧
    (c.bind (.int 8) body.run s).outcome = .error (.wrongType "str" "int") ∧
    (∀ e, inner.Spares e) ∧ (inner.run s).state = s := by
  intro c d s inner body
  have hrefused : ¬ c.type.admits (.text "x") := by decide
  have hadmitted : c.type.admits (.int 8) := by decide
  have hdepth : ∀ t ∈ body.ownStates (c.push (.int 8) s).state,
      (c.stack s).length ≤ (c.stack t).length := by decide
  have hend : (c.stack (body.run (c.push (.int 8) s).state).state).length =
      (c.stack s).length + 1 := by decide
  have hspares (e : Context) : inner.Spares e :=
    ⟨fun _ => ⟨fun _ => trivial, fun _ => trivial⟩, fun _ => ⟨nofun, fun _ => trivial⟩⟩
  obtain ⟨hbad, -, -⟩ := bind_restores c (.text "x") s (α := Unit)
  obtain ⟨-, hgood, hrestored⟩ := bind_restores c (.int 8) s (α := Unit)
  obtain ⟨hcurrent, hbody⟩ := hgood hadmitted
  obtain ⟨hstack, -, houtcome⟩ := hbody body hdepth hend
  exact ⟨hrefused, hbad hrefused body.run, hadmitted, hcurrent, hdepth, hend, hstack,
    houtcome.trans rfl, hspares, hrestored inner hspares⟩

end Strided.Defaults
