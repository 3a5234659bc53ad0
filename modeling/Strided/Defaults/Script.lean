import Strided.Defaults.Attribute
import Strided.Defaults.Contents
import Strided.Defaults.Decorated
import Strided.Defaults.Scope
import Strided.Register

/-!
# Scripts

A script is a list of steps that use defaults: they push and pop, resolve values, call decorated
functions, and run further steps with a default bound, in a new thread or in a copy of the current
stacks.  A `Session` is what the steps work on.  Contexts, handles and functions are registered as
they come up and referred to by number; registers are shared by all threads and copies, stacks are
not.  What a changed object holds is known to all of them.

`Step.run` runs one step and answers what came of it and what was logged meanwhile.  A step first
looks up what it is about, and then evaluates its terms.
-/

namespace Strided.Defaults

/-- A value in a script, which may mention registered handles. -/
inductive Term where
  | value (v : Value)
  /-- What is no value. -/
  | refused (f : Fault)
  | handle (number : Int)
  | list (items : List Term) (mark : Mark)
  | tuple (items : List Term)
  | dict (entries : List (Term × Term)) (mark : Mark)
  | slice (start stop step : Term)
  | index (answer : Term) (mark : Mark)

namespace Term

mutual

def eval (handles : Register Handle) : Term → Except Fault Value
  | value v => .ok v
  | refused f => .error f
  | handle n => (handles.entry n).map Handle.toValue
  | list items mark => do
    let items ← evalAll handles items
    .ok (.list items mark)
  | tuple items => do
    let items ← evalAll handles items
    .ok (.tuple items)
  | dict entries mark => do
    let entries ← evalEntries handles [] entries
    .ok (.dict entries mark)
  | slice start stop step => do
    let start ← eval handles start
    let stop ← eval handles stop
    let step ← eval handles step
    .ok (.slice start stop step)
  | index answer mark => do
    let answer ← eval handles answer
    .ok (.index answer mark)

def evalAll (handles : Register Handle) : List Term → Except Fault (List Value)
  | [] => .ok []
  | t :: rest => do
    let v ← eval handles t
    let values ← evalAll handles rest
    .ok (v :: values)

/-- Adds entries to a dictionary, one by one. -/
def evalEntries (handles : Register Handle) (seen : List (Value × Value)) :
    List (Term × Term) → Except Fault (List (Value × Value))
  | [] => .ok seen
  | (k, v) :: rest => do
    let k ← eval handles k
    let v ← eval handles v
    let seen ← Dictionary.insert k v seen
    evalEntries handles seen rest

end

end Term

/-- A parameter as a script declares it. -/
structure Declaration where
  name : String
  kind : ParameterKind
  default : Option Term

/-- A step of a script. -/
inductive Step where
  /-- What is no step. -/
  | refused (f : Fault)
  | context (type : ReferentType) (description : Option String)
  | push (c : Int) (t : Term)
  | pop (c : Int)
  | current (c : Int)
  | describe (c : Int)
  | description (c : Int)
  | resolve (c : Int) (t : Term)
  | load (c : Int) (t : Term)
  | make (variant : Variant) (t : Option Term)
  | blank (variant : Variant) (name : String)
  | get (h : Int)
  | getAttribute (h : Int) (name : String)
  | callAttribute (h : Int) (name : String)
  | length (h : Int)
  | isExplicit (h : Int)
  | display (h : Int)
  | equals (h : Int) (t : Term)
  | hashesAlike (h other : Int)
  | assign (h : Int) (name : String) (t : Term)
  | delete (h : Int) (name : String)
  | bind (c : Int) (t : Term) (body : List Step) (failure : Option String)
  | thread (body : List Step)
  | copy (body : List Step)
  | decorate (name : String) (parameters : List Declaration) (contexts : List (String × Int))
      (doc : Option String)
  | call (f : Int) (positional : List Term) (keywords : List (String × Term)) (onObject : Bool)
  | functionInfo (f : Int)
  | accessByClass (f : Int)

/-- What a session has registered, the stacks of the thread that runs, and what the changed objects
hold. -/
structure Session where
  contexts : Register Context
  handles : Register Handle
  functions : Register Decorated
  defaults : Stacks
  contents : Contents

namespace Session

def empty : Session := ⟨[], [], [], .empty, []⟩

def addHandle (s : Session) (h : Handle) : Session := { s with handles := s.handles.enter h }

def see (s : Session) (v : Value) : Value := v.renew s.contents

def eval (s : Session) (t : Term) : Except Fault Value := (t.eval s.handles).map s.see

/-- Notes what calling an attribute changes. -/
def noteChange (s : Session) (a : Attribute) : Session :=
  match a.change? with
  | some (mark, v) => { s with contents := s.contents.change mark v }
  | none => s

end Session

/-- What comes of a step. -/
inductive Result where
  | value (v : Value)
  | arguments (a : Arguments)
  | names (items : List (Option String))
  | fault (f : Fault)
  /-- The steps of a thread or copy. -/
  | block (body : List (Result × List Log.Record))
  /-- The steps with a default bound: the default, unless it was refused, and the fault that ended
  them. -/
  | bound (v : Option Value) (body : List (Result × List Log.Record)) (f : Option Fault)

/-- What a step does to the session, what comes of it, and what it logs. -/
structure Outcome where
  session : Session
  result : Result
  log : List Log.Record

namespace Outcome

/-- A result that took no record. -/
def ofResult (s : Session) (r : Result) : Outcome := ⟨s, r, []⟩

def ofValue (s : Session) (v : Value) : Outcome := ofResult s (.value (s.see v))

def ofFault (s : Session) (f : Fault) : Outcome := ofResult s (.fault f)

def ofExcept (s : Session) (x : Except Fault Value) : Outcome :=
  match x with
  | .ok v => ofValue s v
  | .error f => ofFault s f

def after {α : Type} (s : Session) (x : Except Fault α) (f : α → Outcome) : Outcome :=
  match x with
  | .ok a => f a
  | .error e => ofFault s e

def ofReply {α : Type} (s : Session) (r : Reply Stacks α) (f : α → Value) : Outcome :=
  match r.outcome with
  | .ok a => ⟨{ s with defaults := r.state }, .value (s.see (f a)), r.log⟩
  | .error e => ⟨{ s with defaults := r.state }, .fault e, r.log⟩

/-- What a computation that only logs comes to. -/
def ofLogged {α : Type} (s : Session) (x : Logged α) (f : α → Session × Result) : Outcome :=
  match x.outcome with
  | .ok a => ⟨(f a).1, (f a).2, x.events⟩
  | .error e => ⟨s, .fault e, x.events⟩

end Outcome

/-- The caller's objects, by number. -/
abbrev Objects := Nat → Option ObjectState

namespace Step

def onContext (s : Session) (c : Int) (f : Context → Outcome) : Outcome :=
  .after s (s.contexts.entry c) f

/-- A step on a registered handle, with its referent as it is by now. -/
def onHandle (s : Session) (h : Int) (f : Handle → Outcome) : Outcome :=
  .after s (s.handles.entry h) fun h => f ⟨h.variant, s.see h.referent⟩

def onFunction (s : Session) (f : Int) (g : Decorated → Outcome) : Outcome :=
  .after s (s.functions.entry f) g

def onTerm (s : Session) (t : Term) (f : Value → Outcome) : Outcome := .after s (s.eval t) f

/-- A parameter as it is declared, with the value of its default. -/
def parameterOf (s : Session) (p : Declaration) : Except Fault Parameter := do
  let default ← p.default.mapM s.eval
  .ok ⟨p.name, p.kind, default⟩

def decoratedOf (s : Session) (name : String) (parameters : List Declaration)
    (contexts : List (String × Int)) (doc : Option String) : Except Fault Decorated := do
  let signature ← parameters.mapM (parameterOf s)
  let named ← contexts.mapM fun (p, c) => (s.contexts.entry c).map (p, ·)
  Decorated.make (.plain ⟨name, signature, doc⟩) named

def argumentsOf (s : Session) (positional : List Term) (keywords : List (String × Term))
    (onObject : Bool) : Except Fault (List Value × Arguments) := do
  let values ← positional.mapM s.eval
  let named ← keywords.mapM fun (k, t) => (s.eval t).map (k, ·)
  .ok (if onObject then .receiver :: values else values, Arguments.ofPairs named)

/-- Runs steps in a scope.  `refused` is what comes of it if the scope cannot be entered, and `ended`
what comes of what the steps come to, and of the fault in leaving the scope if there is one. -/
def inScope (s : Session) (scope : Scope)
    (body : Session → Session × List (Result × List Log.Record)) (refused : Fault → Result)
    (ended : List (Result × List Log.Record) → Option Fault → Result) : Outcome :=
  let entered := scope.enter s.defaults
  match entered.outcome with
  | .error e => ⟨{ s with defaults := entered.state }, refused e, entered.log⟩
  | .ok _ =>
    let (after, results) := body { s with defaults := entered.state }
    let left := scope.leave s.defaults after.defaults
    let failure := match left.outcome with
      | .ok _ => none
      | .error e => some e
    ⟨{ after with defaults := left.state }, ended results failure,
      entered.log ++ results.flatMap (·.2) ++ left.log⟩

mutual

def run (objects : Objects) (s : Session) : Step → Outcome
  | refused f => .ofFault s f
  | context type title =>
    .ofResult { s with contexts := s.contexts.enter (.make s.contexts.length type title) }
      (.value (.int s.contexts.length))
  | push c t => onContext s c fun c => onTerm s t fun v =>
    .ofReply s (c.push v s.defaults) fun _ => .none
  | pop c => onContext s c fun c => .ofReply s (c.pop s.defaults) id
  | current c => onContext s c fun c => .ofExcept s (c.current s.defaults)
  | describe c => onContext s c fun c => .ofValue s (.text (c.describe s.defaults))
  | description c => onContext s c fun c => .ofValue s (.text c.description)
  | resolve c t => onContext s c fun c => onTerm s t fun v =>
    .ofLogged s (c.resolve v s.defaults) fun h => (s.addHandle h, .value (s.see h.toValue))
  | load c t => onContext s c fun c => onTerm s t fun v =>
    .ofLogged s (c.load v s.defaults) fun
      | some h => (s.addHandle h, .value (s.see h.toValue))
      | none => (s, .value .none)
  | make variant (some t) => onTerm s t fun v =>
    .ofValue (s.addHandle ⟨variant, v⟩) (Handle.toValue ⟨variant, v⟩)
  | make variant none => .ofFault s (.missingReferent variant.name)
  | blank variant name => .ofExcept s ((Handle.blankAttribute variant name).map (·.toValue))
  | get h => onHandle s h fun h => .ofValue s h.referent
  | getAttribute h name => onHandle s h fun h =>
    .ofExcept s ((h.attributeNamed objects name).map (·.toValue))
  | callAttribute h name => onHandle s h fun h => .after s (h.attributeNamed objects name) fun a =>
    .ofExcept (s.noteChange a) a.call
  | length h => onHandle s h fun h => .ofFault s h.length
  | isExplicit h => onHandle s h fun h =>
    .ofExcept s ((h.attributeNamed objects "is_explicit").map (·.toValue))
  | display h => onHandle s h fun h => .ofExcept s (h.toValue.display.map .text)
  | equals h t => onHandle s h fun h => onTerm s t fun v =>
    .ofExcept s ((h.toValue.equals v).map .bool)
  | hashesAlike h other => onHandle s h fun h => onHandle s other fun other =>
    .ofExcept s ((h.hashesAlike other).map .bool)
  | assign h name t => onHandle s h fun _ => onTerm s t fun _ => .ofFault s (.cannotAssign name)
  | delete h name => onHandle s h fun _ => .ofFault s (.cannotDelete name)
  | bind c t body failure => onContext s c fun c => onTerm s t fun v =>
    inScope s (.bound c v) (fun s => runAll objects s body) (.bound none [] ∘ some)
      fun results f => .bound (some v) results (f.or (failure.map (.raised .runtime)))
  | thread body =>
    inScope s .thread (fun s => runAll objects s body) .fault fun results _ => .block results
  | copy body =>
    inScope s .copy (fun s => runAll objects s body) .fault fun results _ => .block results
  | decorate name parameters contexts doc =>
    .after s (decoratedOf s name parameters contexts doc) fun d =>
      .ofResult { s with functions := s.functions.enter d } (.value (.int s.functions.length))
  | call f positional keywords onObject => onFunction s f fun d =>
    .after s (argumentsOf s positional keywords onObject) fun (positional, keywords) =>
      .ofLogged s (d.call positional keywords s.defaults) fun a =>
        (s, .arguments (a.map fun (k, v) => (k, s.see v)))
  | functionInfo f => onFunction s f fun d =>
    .ofResult s (.names [some d.function.name, d.function.doc, some Decorated.typeName])
  | accessByClass f => onFunction s f fun d =>
    .ofResult s (.names [some Decorated.typeName, some d.function.name])

def runAll (objects : Objects) (s : Session) :
    List Step → Session × List (Result × List Log.Record)
  | [] => (s, [])
  | step :: rest =>
    let first := run objects s step
    let (after, results) := runAll objects first.session rest
    (after, (first.result, first.log) :: results)

end

end Step

/-- Runs a script from the start. -/
def runScript (objects : Objects) (steps : List Step) : List (Result × List Log.Record) :=
  (Step.runAll objects .empty steps).2

end Strided.Defaults
