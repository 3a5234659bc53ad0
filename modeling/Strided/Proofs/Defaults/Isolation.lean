import Strided.Proofs.Defaults.Scoping

/-!
# Isolation

The stacks of a thread and of a copy are their own.  `Program.Inserted` relates a program to itself
with such blocks put in, at any points and with anything in them.  The two have the same runs, apart
from the blocks: they perform the same operations with the same outcomes, end with the same stacks,
and come to the same (`Program.blocks_isolated`).  The proof is an induction over the two runs at
once, in which all but a block that was put in is congruence.

Stacks of different contexts are apart as well, whatever the contexts have in common.
-/

namespace Strided.Defaults

/-! ### What a scope makes of its block -/

/-- The replies agree, except for what was logged. -/
structure Reply.Agrees {α : Type} (r r' : Reply Stacks α) : Prop where
  state_eq : r'.state = r.state
  outcome_eq : r'.outcome = r.outcome

theorem Scope.run_agrees {α : Type} {body body' : Stacks → Reply Stacks α}
    (h : ∀ t, Reply.Agrees (body t) (body' t)) (scope : Scope) (s : Stacks) :
    Reply.Agrees (scope.run body s) (scope.run body' s) := by
  cases scope with
  | thread => exact ⟨rfl, (h .empty).outcome_eq⟩
  | copy => exact ⟨rfl, (h s).outcome_eq⟩
  | bound c v =>
    cases hpush : (c.push v s).outcome with
    | error e =>
      rw [run_of_refused (.bound c v) hpush, run_of_refused (.bound c v) hpush]
      exact ⟨rfl, rfl⟩
    | ok _ =>
      have hbody := h (c.push v s).state
      constructor
      · rw [state_run_of_entered hpush, state_run_of_entered hpush, hbody.state_eq]
      · rw [outcome_run_of_entered hpush, outcome_run_of_entered hpush, hbody.state_eq,
          hbody.outcome_eq]

namespace Program

variable {α β : Type}

/-- The second program is the first with blocks put in that run in threads and copies. -/
inductive Inserted : {α : Type} → Program α → Program α → Prop where
  | same {α : Type} (p : Program α) : Inserted p p
  | block {α β : Type} {p q : Program α} (scope : Scope) (hscope : scope.isApart)
      (body : Program β) (hq : Inserted p q) : Inserted p (.within scope body fun _ => q)
  | perform {α β : Type} (op : Operation β) {next next' : Except Fault β → Program α}
      (hnext : ∀ r, Inserted (next r) (next' r)) : Inserted (.perform op next) (.perform op next')
  | within {α β : Type} (scope : Scope) {body body' : Program β}
      {next next' : Except Fault β → Program α} (hbody : Inserted body body')
      (hnext : ∀ r, Inserted (next r) (next' r)) :
      Inserted (.within scope body next) (.within scope body' next')

/-! ### The operations that are performed -/

variable {inside : Scope → Bool}

theorem steps_perform (op : Operation β) (next : Except Fault β → Program α) (s : Stacks) :
    (perform op next).steps inside s =
      [⟨op, (op.run s).outcome⟩] ++ (next (op.run s).outcome).steps inside (op.run s).state :=
  rfl

/-- The operations that a block performs, if it is looked into. -/
def blockSteps (inside : Scope → Bool) (scope : Scope) (body : Program β) (s : Stacks) :
    List Performed :=
  match (scope.enter s).outcome with
  | .ok _ => if inside scope then body.steps inside (scope.enter s).state else []
  | .error _ => []

theorem steps_within (scope : Scope) (body : Program β) (next : Except Fault β → Program α)
    (s : Stacks) :
    (within scope body next).steps inside s = body.blockSteps inside scope s ++
      (next (scope.run body.run s).outcome).steps inside (scope.run body.run s).state := by
  simp only [steps, points, blockSteps, List.filterMap_cons_none, List.filterMap_append]
  congr 1
  cases (scope.enter s).outcome with
  | error e => rfl
  | ok _ => cases inside scope <;> rfl

namespace Inserted

variable {p q : Program α}

/-- Blocks that were put in change neither what a run comes to nor how it leaves the stacks. -/
theorem run_agrees (h : p.Inserted q) (s : Stacks) : Reply.Agrees (p.run s) (q.run s) := by
  induction h generalizing s with
  | same p => exact ⟨rfl, rfl⟩
  | @block α β p q scope hscope body hq ih =>
    have hstate : (scope.run body.run s).state = s := Scope.state_run_of_isApart hscope body.run
    constructor
    · change (q.run (scope.run body.run s).state).state = (p.run s).state
      rw [hstate, (ih s).state_eq]
    · change (q.run (scope.run body.run s).state).outcome = (p.run s).outcome
      rw [hstate, (ih s).outcome_eq]
  | perform op hnext ih => exact ⟨(ih _ _).state_eq, (ih _ _).outcome_eq⟩
  | @within α β scope body body' next next' hbody hnext ihbody ih =>
    have hscope := scope.run_agrees ihbody s
    constructor
    · change ((next' (scope.run body'.run s).outcome).run (scope.run body'.run s).state).state = _
      rw [hscope.outcome_eq, hscope.state_eq, (ih _ _).state_eq]
      rfl
    · change ((next' (scope.run body'.run s).outcome).run (scope.run body'.run s).state).outcome = _
      rw [hscope.outcome_eq, hscope.state_eq, (ih _ _).outcome_eq]
      rfl

/-- A relation between lists of operations that holds of each list and itself, passes through
appending, and allows for the operations of a block that was put in, holds between the operations
of the two runs. -/
theorem steps_related {R : List Performed → List Performed → Prop} (hrefl : ∀ l, R l l)
    (happend : ∀ {a a' b b'}, R a a' → R b b' → R (a ++ b) (a' ++ b'))
    (hblock : ∀ scope : Scope, scope.isApart → inside scope → ∀ l, R [] l)
    (h : p.Inserted q) (s : Stacks) : R (p.steps inside s) (q.steps inside s) := by
  have hsteps {β : Type} {scope : Scope} {body body' : Program β} {s : Stacks}
      (h : ∀ s, R (body.steps inside s) (body'.steps inside s)) :
      R (body.blockSteps inside scope s) (body'.blockSteps inside scope s) := by
    unfold blockSteps
    split
    · split
      · exact h _
      · exact hrefl []
    · exact hrefl []
  induction h generalizing s with
  | same p => exact hrefl _
  | @block α β p q scope hscope body hq ih =>
    rw [steps_within, Scope.state_run_of_isApart hscope, ← List.nil_append (p.steps inside s)]
    refine happend ?_ (ih s)
    unfold blockSteps
    split
    · split
      · next hinside => exact hblock scope hscope hinside _
      · exact hrefl []
    · exact hrefl []
  | perform op hnext ih =>
    rw [steps_perform, steps_perform]
    exact happend (hrefl _) (ih _ _)
  | @within α β scope body body' next next' hbody hnext ihbody ih =>
    have hscope := scope.run_agrees hbody.run_agrees s
    rw [steps_within, steps_within, hscope.outcome_eq, hscope.state_eq]
    exact happend (hsteps ihbody) (ih _ _)

end Inserted

/-- **Threads and copies are isolated**, and so are contexts.

* Blocks in threads and copies may be put into a program at any points, with anything in them: it
  performs the same operations with the same outcomes as before, also inside of the threads and
  copies that it had already, and it ends with the same stacks and the same result or fault.
* A thread starts with no defaults and a copy with those that are there, and the program goes on
  with those that were there.
* The stack of a context is changed by pushing and popping this context only.  Another context may
  have the same type and the same description. -/
theorem blocks_isolated {α β : Type} :
    (∀ {p q : Program α}, p.Inserted q → ∀ s : Stacks,
      (q.run s).state = (p.run s).state ∧ (q.run s).outcome = (p.run s).outcome ∧
      q.ownSteps s = p.ownSteps s ∧
      (p.steps (fun _ => true) s).Sublist (q.steps (fun _ => true) s)) ∧
    (∀ (body : Program β) (next : Except Fault β → Program α) (s : Stacks),
      (within .thread body next).states (fun _ => true) s =
        s :: (body.states (fun _ => true) .empty ++
          (next (body.run .empty).outcome).states (fun _ => true) s) ∧
      (within .copy body next).states (fun _ => true) s =
        s :: (body.states (fun _ => true) s ++
          (next (body.run s).outcome).states (fun _ => true) s)) ∧
    (∀ {c : Context} {p : Program α}, p.Spares c → ∀ s : Stacks,
      c.stack (p.run s).state = c.stack s) ∧
    ∀ c d : Context, c.id ≠ d.id → ∀ (v : Value) (s : Stacks),
      d.stack (c.push v s).state = d.stack s ∧ d.stack (c.pop s).state = d.stack s := by
  refine ⟨fun {p q} h s => ⟨(h.run_agrees s).state_eq, (h.run_agrees s).outcome_eq, ?_, ?_⟩,
    fun body next s => ⟨?_, ?_⟩, fun h s => stack_run_of_spares h s, fun c d hid v s => ?_⟩
  · refine h.steps_related (R := fun l l' => l' = l) (fun _ => rfl) ?_ ?_ s
    · rintro a _ b _ rfl rfl
      rfl
    · intro scope hscope hinside
      simp [hscope] at hinside
  · refine h.steps_related (R := List.Sublist) List.Sublist.refl List.Sublist.append ?_ s
    exact fun _ _ _ l => l.nil_sublist
  · exact (congrArg (List.cons s) List.map_append).trans rfl
  · exact (congrArg (List.cons s) List.map_append).trans rfl
  · have hne : d ≠ c := fun h => hid (congrArg Context.id h).symm
    exact ⟨Context.stack_push_of_ne hne v s, Context.stack_pop_of_ne hne s⟩

/-- A copy in which more is popped than there is, and a thread within it, between a default and its
use.  There is another context like the one in use. -/
theorem blocks_isolated_between_push_and_use :
    let c : Context := ⟨0, .integer, "int"⟩
    let d : Context := ⟨1, .integer, "int"⟩
    let reading : Program Value := .perform (.current c) .done
    let block : Program Value := .perform (.pop c) fun _ => .perform (.pop c) fun _ =>
      .within .thread (.perform (.push c (.int 5)) .done) fun _ => .done (.ok .none)
    let p : Program Value := .perform (.push c (.int 1)) fun _ => reading
    let q : Program Value :=
      .perform (.push c (.int 1)) fun _ => .within .copy block fun _ => reading
    p.Inserted q ∧ (q.run .empty).outcome = .ok (.int 1) ∧ q.ownSteps .empty = p.ownSteps .empty ∧
    q.Spares d ∧ d.stack (q.run .empty).state = [] ∧
    c.id ≠ d.id ∧ d.stack (c.push (.int 1) .empty).state = [] := by
  intro c d reading block p q
  have hinserted : p.Inserted q :=
    .perform (.push c (.int 1)) fun _ => .block .copy rfl block (.same reading)
  have hspares : q.Spares d := by
    refine ⟨by decide, fun _ => ⟨nofun, fun _ => ⟨by decide, fun _ => trivial⟩⟩⟩
  obtain ⟨hblocks, -, hcontexts, happart⟩ := blocks_isolated (α := Value) (β := Value)
  obtain ⟨-, houtcome, hsteps, -⟩ := hblocks hinserted .empty
  exact ⟨hinserted, houtcome.trans rfl, hsteps, hspares, hcontexts hspares .empty, by decide,
    (happart c d (by decide) (.int 1) .empty).1⟩

end Program

end Strided.Defaults
