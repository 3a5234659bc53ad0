import Strided.Defaults.Program

/-!
# What a run keeps

A program changes the stacks in two ways only: it pushes a value of the right type, or it pops the
latest one.  `Stacks.Moves` says so of a single operation and of entering and leaving a scope that
binds a default.

`Program.states_invariant` goes from one move to whole runs, by induction on the program: what every
move keeps holds at each point of a run, in threads and copies too if it holds where they start.
-/

namespace Strided.Defaults

/-! ### One move -/

/-- The ways in which stacks change. -/
inductive Stacks.Moves (s : Stacks) : Stacks → Prop where
  | stay : s.Moves s
  | push {c : Context} {v : Value} (h : c.type.admits v) : s.Moves (s.set c (v :: s c))
  | pop {c : Context} {v : Value} {rest : List Value} (h : s c = v :: rest) : s.Moves (s.set c rest)

namespace Context

variable {c : Context} {v : Value} {s : Stacks}

theorem push_of_admits (h : c.type.admits v) :
    ∃ records, c.push v s = ⟨s.set c (v :: c.stack s), records, .ok ()⟩ :=
  ⟨_, if_pos h⟩

theorem push_of_not_admits (h : ¬ c.type.admits v) :
    c.push v s = .fault s (.wrongType c.description v.typeName) :=
  if_neg h

theorem push_of_error {e : Fault} (h : (c.push v s).outcome = .error e) :
    c.push v s = .fault s e := by
  by_cases hv : c.type.admits v
  · obtain ⟨records, hpush⟩ := push_of_admits (s := s) hv
    rw [hpush] at h
    cases h
  · rw [push_of_not_admits hv] at h ⊢
    cases h
    rfl

theorem pop_of_stack_nil (h : c.stack s = []) :
    c.pop s = .violation s (.emptyStack c.description) := by
  simp only [pop, h]

theorem pop_of_stack_cons {rest : List Value} (h : c.stack s = v :: rest) :
    ∃ records, c.pop s = ⟨s.set c rest, records, .ok v⟩ := by
  simp only [pop, h]
  exact ⟨_, rfl⟩

theorem push_moves (c : Context) (v : Value) (s : Stacks) : s.Moves (c.push v s).state := by
  by_cases h : c.type.admits v
  · obtain ⟨records, hpush⟩ := push_of_admits (s := s) h
    rw [hpush]
    exact .push h
  · rw [push_of_not_admits h]
    exact .stay

theorem pop_moves (c : Context) (s : Stacks) : s.Moves (c.pop s).state := by
  cases h : c.stack s with
  | nil =>
    rw [pop_of_stack_nil h]
    exact .stay
  | cons v rest =>
    obtain ⟨records, hpop⟩ := pop_of_stack_cons h
    rw [hpop]
    exact .pop h

theorem stack_push_of_ne {d : Context} (h : d ≠ c) (v : Value) (s : Stacks) :
    d.stack (c.push v s).state = d.stack s := by
  by_cases hv : c.type.admits v
  · obtain ⟨records, hpush⟩ := push_of_admits (s := s) hv
    rw [hpush]
    exact s.set_of_ne _ h
  · rw [push_of_not_admits hv]
    rfl

theorem stack_pop_of_ne {d : Context} (h : d ≠ c) (s : Stacks) :
    d.stack (c.pop s).state = d.stack s := by
  cases hs : c.stack s with
  | nil =>
    rw [pop_of_stack_nil hs]
    rfl
  | cons v rest =>
    obtain ⟨records, hpop⟩ := pop_of_stack_cons hs
    rw [hpop]
    exact s.set_of_ne _ h

end Context

theorem Operation.run_moves {α : Type} (op : Operation α) (s : Stacks) :
    s.Moves (op.run s).state := by
  cases op with
  | push c v => exact c.push_moves v s
  | pop c => exact c.pop_moves s
  | current | describe | resolve | load | call => exact .stay

namespace Scope

variable {α : Type} {scope : Scope} {s : Stacks}

theorem run_of_refused (scope : Scope) {e : Fault} (h : (scope.enter s).outcome = .error e)
    (body : Stacks → Reply Stacks α) :
    scope.run body s = ⟨(scope.enter s).state, (scope.enter s).log, .error e⟩ :=
  Reply.bind_of_error h _

/-- A block with a default bound ends with the default taken away. -/
theorem state_run_of_entered {c : Context} {v : Value} (h : (c.push v s).outcome = .ok ())
    (body : Stacks → Reply Stacks α) :
    ((bound c v).run body s).state = (c.pop (body (c.push v s).state).state).state := by
  rw [run, Reply.bind_of_ok (r := enter s (bound c v)) h]
  cases hpop : (c.pop (body (c.push v s).state).state).outcome with
  | ok top => simp only [Reply.andThen, enter, leave, Reply.bind, hpop, Reply.ok]
  | error e => simp only [Reply.andThen, enter, leave, Reply.bind, hpop]

theorem outcome_run_of_entered {c : Context} {v : Value} (h : (c.push v s).outcome = .ok ())
    (body : Stacks → Reply Stacks α) :
    ((bound c v).run body s).outcome =
      (c.pop (body (c.push v s).state).state).outcome.bind
        fun _ => (body (c.push v s).state).outcome := by
  rw [run, Reply.bind_of_ok (r := enter s (bound c v)) h]
  cases hpop : (c.pop (body (c.push v s).state).state).outcome with
  | ok top => simp only [Reply.andThen, enter, leave, Reply.bind, hpop, Reply.ok, Except.bind]
  | error e => simp only [Reply.andThen, enter, leave, Reply.bind, hpop, Except.bind]

theorem state_run_of_isApart (h : scope.isApart) (body : Stacks → Reply Stacks α) :
    (scope.run body s).state = s := by
  cases scope with
  | bound c v => cases h
  | thread | copy => rfl

end Scope

theorem Context.bind_of_error {α : Type} {c : Context} {v : Value} {s : Stacks} {e : Fault}
    (h : (c.push v s).outcome = .error e) (body : Stacks → Reply Stacks α) :
    c.bind v body s = .fault s e := by
  rw [bind, Scope.run_of_refused (.bound c v) h, Scope.enter, push_of_error h]
  rfl

namespace Program

/-! ### Calls -/

section Call

variable {α : Type} {d : Decorated} {positional : List Value} {keywords : Arguments} {s : Stacks}

/-- A decorated function that can be called runs once, with the arguments that it receives. -/
theorem run_call_of_ok {arguments : Arguments}
    (h : (d.call positional keywords s).outcome = .ok arguments) (body : Arguments → Program α) :
    (Program.call d positional keywords body).run s =
      let r := (body arguments).run s
      ⟨r.state, (d.call positional keywords s).events ++ r.log, r.outcome⟩ := by
  simp only [call, run, Operation.run, Reply.ofLogged, Reply.andThen, h]

/-- If a decorated function cannot be called then it does not run, and no stack changes. -/
theorem run_call_of_error {e : Fault} (h : (d.call positional keywords s).outcome = .error e)
    (body : Arguments → Program α) :
    (Program.call d positional keywords body).run s =
      ⟨s, (d.call positional keywords s).events, .error e⟩ := by
  simp only [call, run, Operation.run, Reply.ofLogged, Reply.andThen, h, List.append_nil]

end Call

/-! ### The points of a run -/

variable {α β : Type} {inside : Scope → Bool} {s t : Stacks}

theorem mem_states_self (p : Program α) : s ∈ p.states inside s := by
  cases p <;> exact List.mem_cons_self ..

theorem mem_states_perform {op : Operation β} {next : Except Fault β → Program α} :
    t ∈ (perform op next).states inside s ↔
      t = s ∨ t ∈ (next (op.run s).outcome).states inside (op.run s).state :=
  List.mem_cons

theorem mem_states_within {scope : Scope} {body : Program β} {next : Except Fault β → Program α} :
    t ∈ (within scope body next).states inside s ↔ t = s ∨
      ((scope.enter s).outcome = .ok () ∧ inside scope ∧
        t ∈ body.states inside (scope.enter s).state) ∨
      t ∈ (next (scope.run body.run s).outcome).states inside (scope.run body.run s).state := by
  simp only [states, points, List.map_cons, List.map_append, List.mem_cons, List.mem_append]
  refine or_congr_right (or_congr_left ?_)
  cases (scope.enter s).outcome with
  | error e => simp
  | ok _ => cases inside scope <;> simp

theorem run_mem_states (p : Program α) : (p.run s).state ∈ p.states inside s := by
  induction p generalizing s with
  | done outcome => exact List.mem_singleton.2 rfl
  | perform op next ih => exact mem_states_perform.2 (.inr (ih _))
  | within scope body next _ ih => exact mem_states_within.2 (.inr (.inr (ih _)))

/-- **What every move keeps, a run keeps.**  The move may also be known to lead to stacks with the
property `Q`, if all points of the run have it. -/
theorem states_invariant {I Q : Stacks → Prop}
    (hmove : ∀ {s t : Stacks}, I s → s.Moves t → Q t → I t)
    (hthread : inside .thread → I .empty) (hbound : ∀ c v, inside (.bound c v))
    (p : Program α) (hs : I s) (hQ : ∀ t ∈ p.states inside s, Q t) :
    ∀ t ∈ p.states inside s, I t := by
  induction p generalizing s with
  | done outcome =>
    intro t ht
    rw [List.mem_singleton.1 ht]
    exact hs
  | perform op next ih =>
    intro t ht
    have hnext : ∀ t ∈ (next (op.run s).outcome).states inside (op.run s).state, Q t :=
      fun t ht => hQ t (mem_states_perform.2 (.inr ht))
    rcases mem_states_perform.1 ht with rfl | ht
    · exact hs
    · exact ih _ (hmove hs (op.run_moves s) (hnext _ (mem_states_self _))) hnext t ht
  | within scope body next ihbody ih =>
    -- the block has the invariant where it starts, so it has it where it ends
    have hblock (hin : inside scope) (hok : (scope.enter s).outcome = .ok ()) :
        ∀ t ∈ body.states inside (scope.enter s).state, I t := by
      have hbody : ∀ t ∈ body.states inside (scope.enter s).state, Q t :=
        fun t ht => hQ t (mem_states_within.2 (.inr (.inl ⟨hok, hin, ht⟩)))
      refine ihbody ?_ hbody
      cases scope with
      | bound c v => exact hmove hs (c.push_moves v s) (hbody _ (mem_states_self _))
      | thread => exact hthread hin
      | copy => exact hs
    have hnext : ∀ t ∈ (next (scope.run body.run s).outcome).states inside
        (scope.run body.run s).state, Q t :=
      fun t ht => hQ t (mem_states_within.2 (.inr (.inr ht)))
    have hleft : I (scope.run body.run s).state := by
      have hself := hnext _ (mem_states_self _)
      cases scope with
      | thread | copy => exact hs
      | bound c v =>
        cases hok : (c.push v s).outcome with
        | error e =>
          rw [Scope.run_of_refused (.bound c v) hok] at hself ⊢
          exact hmove hs (c.push_moves v s) hself
        | ok _ =>
          rw [Scope.state_run_of_entered hok] at hself ⊢
          exact hmove (hblock (hbound c v) hok _ (run_mem_states body)) (c.pop_moves _) hself
    intro t ht
    rcases mem_states_within.1 ht with rfl | ⟨hok, hin, ht⟩ | ht
    · exact hs
    · exact hblock hin hok t ht
    · exact ih _ hleft hnext t ht

end Program

end Strided.Defaults
