import Strided.Defaults.ReferentType
import Strided.Reply
import Strided.Traced

/-!
# Contexts

A `Context` has a stack of current defaults for the values of one type, the latest on top.  `Stacks`
holds the stacks of all contexts, each under its context.  Contexts are told apart by their
identity, so that two of them never share a stack, even where they have the same type and are
described alike.

A value is resolved against a context: one that is left out is replaced by the current default, any
other has to be of the type of the context.  What comes out is a `Handle`, which knows which of the
two it was.
-/

namespace Strided.Defaults

/-- A kind of defaults: a type of values with a name for reports. -/
structure Context where
  /-- Which context it is. -/
  id : Nat
  type : ReferentType
  description : String
  deriving DecidableEq, Repr

/-- The stacks of all contexts, with the top first. -/
def Stacks := Context → List Value

namespace Stacks

def empty : Stacks := fun _ => []

def set (s : Stacks) (c : Context) (values : List Value) : Stacks :=
  fun d => if d = c then values else s d

@[simp] theorem set_self (s : Stacks) (c : Context) (values : List Value) :
    s.set c values c = values := by
  simp [set]

theorem set_of_ne (s : Stacks) {c d : Context} (values : List Value) (h : d ≠ c) :
    s.set c values d = s d := by
  simp [set, h]

end Stacks

/-- A reference to a value, and how it was come by. -/
structure Handle where
  variant : Variant
  referent : Value

namespace Handle

def toValue (h : Handle) : Value := .handle h.variant h.referent

/-- A value, or what it refers to if it is a handle. -/
def unwrap : Value → Value
  | .handle _ referent => referent
  | v => v

end Handle

namespace Context

/-- A context with the given description, or named for its type. -/
def make (id : Nat) (type : ReferentType) (description : Option String) : Context :=
  match description with
  | some "" | none => ⟨id, type, type.name⟩
  | some d => ⟨id, type, d⟩

def stack (c : Context) (s : Stacks) : List Value := s c

/-- How the context is shown in a report. -/
def describe (c : Context) (s : Stacks) : String :=
  s!"DefaultContext({c.description}, depth={(c.stack s).length})"

def current (c : Context) (s : Stacks) : Except Fault Value :=
  match c.stack s with
  | [] => .error (.noCurrent c.description)
  | v :: _ => .ok v

def note (message : String) : Log.Record := ⟨.defaulting, .debug, message⟩

def push (c : Context) (v : Value) (s : Stacks) : Reply Stacks Unit :=
  if c.type.admits v then
    let values := v :: c.stack s
    let pushed := note s!"pushed default {c.description} (depth {values.length})"
    ⟨s.set c values, [pushed], .ok ()⟩
  else .fault s (.wrongType c.description v.typeName)

/-- Takes the current default away.  There has to be one. -/
def pop (c : Context) (s : Stacks) : Reply Stacks Value :=
  match c.stack s with
  | [] => .violation s (.emptyStack c.description)
  | v :: rest =>
    ⟨s.set c rest, [note s!"popped default {c.description} (depth {rest.length})"], .ok v⟩

def resolve (c : Context) (v : Value) (s : Stacks) : Logged Handle :=
  match Handle.unwrap v with
  | .none =>
    match c.current s with
    | .ok referent =>
      ⟨[note s!"resolved {c.description} from the current default"], .ok ⟨.resolved, referent⟩⟩
    | .error e => .fail e
  | v =>
    if c.type.admits v then pure ⟨.explicit, v⟩
    else .fail (.wrongType c.description v.typeName)

/-- Resolves a value, and answers `none` for one of the wrong type. -/
def load (c : Context) (v : Value) (s : Stacks) : Logged (Option Handle) :=
  let r := c.resolve v s
  match r.outcome with
  | .ok h => ⟨r.events, .ok (some h)⟩
  | .error e =>
    if e.kind.isA .defaultingType then ⟨r.events, .ok none⟩ else ⟨r.events, .error e⟩

end Context

end Strided.Defaults
