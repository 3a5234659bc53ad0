import Strided.Defaults.Decorated
import Strided.Defaults.Scope

/-!
# Programs

A `Program` is any computation that uses defaults.  It performs an `Operation` and goes on as it
likes, whatever came of it; it runs a block in a scope and goes on likewise; and at some point it is
done, with a result or a fault.  So a fault ends a block wherever the program says so, and is
handled wherever the program says so.

What a decorated function does is a part of the program that calls it: the program performs the
call, which answers the arguments that the function receives, and goes on with what the function
does with them.

`points` lists what a run comes by: the stacks at each point, and the operation that is performed
there.
-/

namespace Strided.Defaults

/-- Something that a program asks of the defaults, and the type of the answer. -/
inductive Operation : Type → Type where
  | push (c : Context) (v : Value) : Operation Unit
  | pop (c : Context) : Operation Value
  | current (c : Context) : Operation Value
  | describe (c : Context) : Operation String
  | resolve (c : Context) (v : Value) : Operation Handle
  | load (c : Context) (v : Value) : Operation (Option Handle)
  /-- Calls a decorated function.  The answer is what the function receives. -/
  | call (d : Decorated) (positional : List Value) (keywords : Arguments) : Operation Arguments

namespace Operation

variable {α : Type}

/-- The context whose stack an operation changes, if it does not fail. -/
def changed? : Operation α → Option Context
  | push c _ | pop c => some c
  | current _ | describe _ | resolve .. | load .. | call .. => none

def run (s : Stacks) : Operation α → Reply Stacks α
  | push c v => c.push v s
  | pop c => c.pop s
  | current c => ⟨s, [], c.current s⟩
  | describe c => .ok s (c.describe s)
  | resolve c v => .ofLogged s (c.resolve v s)
  | load c v => .ofLogged s (c.load v s)
  | call d positional keywords => .ofLogged s (d.call positional keywords s)

end Operation

/-- A computation that uses defaults. -/
inductive Program : Type → Type 1 where
  | done {α : Type} (outcome : Except Fault α) : Program α
  /-- Performs an operation and goes on with what came of it. -/
  | perform {α β : Type} (op : Operation β) (next : Except Fault β → Program α) : Program α
  /-- Runs a block in a scope and goes on with what came of it. -/
  | within {α β : Type} (scope : Scope) (body : Program β) (next : Except Fault β → Program α) :
    Program α

/-- An operation that was performed, and what came of it. -/
structure Performed where
  {α : Type}
  operation : Operation α
  outcome : Except Fault α

/-- A point of a run: the stacks there, and what is performed there. -/
structure Point where
  defaults : Stacks
  performed : Option Performed

namespace Program

variable {α : Type}

/-- Calls a decorated function that does `body` with the arguments that it receives. -/
def call (d : Decorated) (positional : List Value) (keywords : Arguments)
    (body : Arguments → Program α) : Program α :=
  perform (.call d positional keywords) fun
    | .ok arguments => body arguments
    | .error e => done (.error e)

def run {α : Type} : Program α → Stacks → Reply Stacks α
  | done outcome, s => ⟨s, [], outcome⟩
  | perform op next, s => (op.run s).andThen fun t outcome => (next outcome).run t
  | within scope body next, s => (scope.run body.run s).andThen fun t outcome => (next outcome).run t

/-- What a run comes by, in order.  `inside` tells the scopes whose blocks are looked into. -/
def points {α : Type} (inside : Scope → Bool) : Program α → Stacks → List Point
  | done _, s => [⟨s, none⟩]
  | perform op next, s =>
    let r := op.run s
    ⟨s, some ⟨op, r.outcome⟩⟩ :: (next r.outcome).points inside r.state
  | within scope body next, s =>
    let entered := scope.enter s
    let r := scope.run body.run s
    let block := match entered.outcome with
      | .ok _ => if inside scope then body.points inside entered.state else []
      | .error _ => []
    ⟨s, none⟩ :: (block ++ (next r.outcome).points inside r.state)

def states (inside : Scope → Bool) (p : Program α) (s : Stacks) : List Stacks :=
  (p.points inside s).map Point.defaults

/-- The operations that a run performs, and what comes of each. -/
def steps (inside : Scope → Bool) (p : Program α) (s : Stacks) : List Performed :=
  (p.points inside s).filterMap Point.performed

/-- The stacks at each point of a run, outside of threads and copies. -/
abbrev ownStates (p : Program α) (s : Stacks) : List Stacks :=
  p.states (fun scope => !scope.isApart) s

/-- The operations that a run performs outside of threads and copies, and what comes of each. -/
abbrev ownSteps (p : Program α) (s : Stacks) : List Performed :=
  p.steps (fun scope => !scope.isApart) s

end Program

end Strided.Defaults
