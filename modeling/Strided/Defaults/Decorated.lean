import Strided.Defaults.Context
import Strided.Defaults.Signature

/-!
# Decorated functions

A decorated function resolves some of its arguments before it is called: each named parameter
receives a handle, made from the argument or from the current default of the context that belongs to
the name.

Decorating a function that is decorated already adds nothing: the names are looked up in the
parameters of the function inside, and then everything is as the inner decoration has it.
-/

namespace Strided.Defaults

/-- A function that returns its arguments. -/
structure Function where
  name : String
  signature : Signature
  doc : Option String

/-- A function of which some parameters are resolved against contexts. -/
structure Decorated where
  function : Function
  /-- The contexts by the names of the parameters, in the order in which they are resolved. -/
  contexts : List (String × Context)

/-- What can be decorated. -/
inductive Decorable where
  | plain (f : Function)
  | decorated (d : Decorated)

namespace Decorable

def function : Decorable → Function
  | plain f => f
  | decorated d => d.function

end Decorable

namespace Decorated

/-- The names that are no parameters, in the order of their characters. -/
def unknownNames (s : Signature) (names : List String) : List String :=
  (names.filter fun n => !s.any (·.name == n)).mergeSort (fun a b => !(b < a))

/-- Later entries replace earlier ones of the same name. -/
def contextsOfPairs (pairs : List (String × Context)) : List (String × Context) :=
  pairs.foldl (fun a p =>
    if a.any (·.1 == p.1) then a.map fun q => if q.1 == p.1 then p else q else a ++ [p]) []

/-- Decorates a function.  Every name has to be one of a parameter. -/
def make (target : Decorable) (contexts : List (String × Context)) : Except Fault Decorated :=
  let contexts := contextsOfPairs contexts
  match unknownNames target.function.signature (contexts.map (·.1)) with
  | [] =>
    match target with
    | .plain f => .ok ⟨f, contexts⟩
    | .decorated d => .ok d
  | names => .error (.unknownParameters target.function.name names)

/-- Resolves the arguments of the named parameters, in order. -/
def resolveAll (name : String) (s : Stacks) :
    List (String × Context) → Arguments → Logged Arguments
  | [], arguments => pure arguments
  | (p, c) :: rest, arguments => do
    let v := (arguments.lookup p).getD .none
    match ← c.load v s with
    | some h => resolveAll name s rest (Arguments.set p h.toValue arguments)
    | none => .fail (.wrongArgument name p c.description v.typeName)

def receiverKeyword : String := "self"

/-- The arguments that the function receives from a call. -/
def call (d : Decorated) (positional : List Value) (keywords : Arguments) (s : Stacks) :
    Logged Arguments := do
  if (keywords.lookup receiverKeyword).isSome then .fail .receiverByKeyword
  else
    let bound ← Traced.ofExcept (d.function.signature.bind positional keywords)
    let arguments ← resolveAll d.function.name s d.contexts (d.function.signature.complete bound)
    .ofExcept (d.function.signature.passOn arguments)

def typeName : String := "DefaultingFunction"

end Decorated

end Strided.Defaults
