import Strided.Defaults.Context

/-!
# Scopes

A block of steps may run in a `Scope` of its own: with a default bound, in a new thread, which has
no defaults at first, or in a copy of the stacks.  A scope is entered before the block and left
after it, however the block ends.

A thread and a copy have stacks of their own, so that leaving one brings back the stacks as they
were.  A bound default is only taken away again.
-/

namespace Strided.Defaults

/-- Where a block of steps runs. -/
inductive Scope where
  /-- Where it stands, with a default bound. -/
  | bound (c : Context) (v : Value)
  | thread
  | copy

namespace Scope

/-- The block has stacks of its own. -/
def isApart : Scope → Bool
  | bound .. => false
  | thread | copy => true

/-- Enters a scope from the given stacks.  The block starts with the state that this leaves. -/
def enter (s : Stacks) : Scope → Reply Stacks Unit
  | bound c v => c.push v s
  | thread => .ok .empty ()
  | copy => .ok s ()

/-- Leaves a scope that was entered from the stacks `s`, where the block ended with `ended`. -/
def leave (s ended : Stacks) : Scope → Reply Stacks Unit
  | bound c _ => (c.pop ended).bind fun t _ => .ok t ()
  | thread | copy => .ok s ()

/-- Runs a block in a scope.  What comes of it is what comes of the block, unless the scope cannot
be entered, and then the block does not run, or cannot be left. -/
def run {α : Type} (scope : Scope) (body : Stacks → Reply Stacks α) (s : Stacks) :
    Reply Stacks α :=
  (scope.enter s).bind fun t _ => (body t).andThen fun ended outcome =>
    (scope.leave s ended).bind fun t _ => ⟨t, [], outcome⟩

end Scope

namespace Context

def bind {α : Type} (c : Context) (v : Value) (body : Stacks → Reply Stacks α) :
    Stacks → Reply Stacks α :=
  (Scope.bound c v).run body

end Context

end Strided.Defaults
