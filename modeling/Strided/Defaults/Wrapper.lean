import Strided.Defaults.Decorated

/-!
# Wrappers

How a decorated function is put together.  A wrapper keeps what it is going to call, the contexts by
which it resolves arguments, and the signature that it binds them to.  Once it has these it takes on
the appearance of what it wraps: it copies whatever that keeps, over what it keeps itself, and then
notes what it wraps, through which it is asked for its name and its signature.

A function keeps nothing of this kind, so that a wrapper of a function stays as it was set up.  What
is left of one of a wrapper is only what it notes.
-/

namespace Strided.Defaults

/-- What can be called: a function, or a wrapper. -/
inductive Callable where
  | function (f : Function)
  /-- `wrapped` is what the wrapper was made of, and `inner` what it calls. -/
  | wrapper (inner : Callable) (contexts : List (String × Context)) (signature : Signature)
    (wrapped : Callable)

namespace Callable

/-- What a wrapper keeps. -/
structure Members where
  inner : Callable
  contexts : List (String × Context)
  signature : Signature

/-- What is kept by something that can be called, if it is a wrapper. -/
def members? : Callable → Option Members
  | function _ => none
  | wrapper inner contexts signature _ => some ⟨inner, contexts, signature⟩

/-- The name, for which a wrapper asks what it wraps. -/
def name : Callable → String
  | function f => f.name
  | wrapper _ _ _ wrapped => wrapped.name

/-- The signature, for which a wrapper asks what it wraps. -/
def signature : Callable → Signature
  | function f => f.signature
  | wrapper _ _ _ wrapped => wrapped.signature

/-- The wrapper of `target` that was set up to keep `own`.  What the target keeps replaces it. -/
def wrapperOf (target : Callable) (own : Members) : Callable :=
  let kept := target.members?.getD own
  wrapper kept.inner kept.contexts kept.signature target

/-- Wraps something that can be called.  Every name has to be one of a parameter. -/
def wrap (target : Callable) (contexts : List (String × Context)) : Except Fault Callable :=
  let own : Members := ⟨target, Decorated.contextsOfPairs contexts, target.signature⟩
  match Decorated.unknownNames own.signature (own.contexts.map (·.1)) with
  | [] => .ok (target.wrapperOf own)
  | names => .error (.unknownParameters target.name names)

/-- The arguments that the function inside receives from a call. -/
def call : Callable → (positional : List Value) → (keywords : Arguments) → Stacks → Logged Arguments
  | function f, positional, keywords, _ => .ofExcept (f.signature.receive positional keywords)
  | wrapper inner contexts signature _, positional, keywords, s => do
    if (keywords.lookup Decorated.receiverKeyword).isSome then .fail .receiverByKeyword
    else
      let bound ← Traced.ofExcept (signature.bind positional keywords)
      let arguments ← Decorated.resolveAll inner.name s contexts (signature.complete bound)
      let positional ← Traced.ofExcept (signature.positionalOf arguments)
      let keywords ← Traced.ofExcept (signature.keywordsOf arguments)
      inner.call positional keywords s

end Callable

end Strided.Defaults
