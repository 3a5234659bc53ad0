import Strided.Value.Basic
import Strided.Fault

/-!
# Signatures

The parameters of a function, and how the arguments of a call are bound to them.  `bind` gives the
arguments that were passed, and `complete` adds what was left out.  `passOn` calls the function with
the result: `positionalOf` and `keywordsOf` take the arguments apart again, for which a parameter
that gathers arguments has to hold a tuple or a dictionary, and `receive` is how a function takes a
call.
-/

namespace Strided.Defaults

/-- How a parameter takes its argument. -/
inductive ParameterKind where
  | positionalOnly
  | positionalOrKeyword
  /-- Gathers the positional arguments that are left. -/
  | restPositional
  | keywordOnly
  /-- Gathers the keyword arguments that are left. -/
  | restKeyword
  deriving DecidableEq, Repr

/-- The parameter takes its argument by keyword alone. -/
def ParameterKind.isByKeyword : ParameterKind → Bool
  | keywordOnly | restKeyword => true
  | positionalOnly | positionalOrKeyword | restPositional => false

/-- A parameter. -/
structure Parameter where
  name : String
  kind : ParameterKind
  default : Option Value

/-- Arguments by the names of their parameters, or of the keywords they were passed with. -/
abbrev Arguments := List (String × Value)

/-- Sets an argument; one that is there already keeps its place. -/
def Arguments.set (name : String) (v : Value) : Arguments → Arguments
  | [] => [(name, v)]
  | (k, w) :: rest => if k = name then (k, v) :: rest else (k, w) :: Arguments.set name v rest

def Arguments.update (a : Arguments) (entries : List (String × Value)) : Arguments :=
  entries.foldl (fun a e => Arguments.set e.1 e.2 a) a

/-- Keyword arguments in which a later one replaces an earlier one of the same name. -/
def Arguments.ofPairs (pairs : List (String × Value)) : Arguments := Arguments.update [] pairs

/-- The parameters of a function, in order. -/
abbrev Signature := List Parameter

namespace Signature

/-- Binds the positional arguments, and answers the parameters that are left for keywords. -/
def bindPositional (keywords : Arguments) :
    Signature → List Value → Except Fault (Arguments × Signature)
  | [], [] => .ok ([], [])
  | p :: rest, [] =>
    if p.kind = .restPositional then .ok ([], rest)
    else if (keywords.lookup p.name).isSome then
      if p.kind = .positionalOnly then .error (.positionalOnly p.name) else .ok ([], p :: rest)
    else if p.kind = .restKeyword ∨ p.default.isSome then .ok ([], p :: rest)
    else .error (.missingArgument p.name)
  | [], _ :: _ => .error .tooManyPositional
  | p :: rest, v :: values =>
    match p.kind with
    | .restKeyword | .keywordOnly => .error .tooManyPositional
    | .restPositional => .ok ([(p.name, .tuple (v :: values))], rest)
    | kind =>
      if (keywords.lookup p.name).isSome ∧ kind ≠ .positionalOnly then
        .error (.multipleValues p.name)
      else do
        let (bound, left) ← bindPositional keywords rest values
        .ok ((p.name, v) :: bound, left)

/-- Binds keyword arguments to the parameters that are left, and answers the arguments that find
none. -/
def bindKeywords : Signature → (keywords : Arguments) → Except Fault (Arguments × Arguments)
  | [], keywords => .ok ([], keywords)
  | p :: rest, keywords =>
    match p.kind with
    | .restKeyword | .restPositional => bindKeywords rest keywords
    | kind =>
      match keywords.lookup p.name with
      | some v =>
        if kind = .positionalOnly then .error (.positionalOnly p.name)
        else do
          let (bound, left) ← bindKeywords rest (keywords.filter (·.1 != p.name))
          .ok ((p.name, v) :: bound, left)
      | none =>
        if p.default.isNone then .error (.missingArgument p.name) else bindKeywords rest keywords

/-- The keyword arguments that found no parameter, as a dictionary. -/
def gathered (keywords : Arguments) : Value :=
  .dict (keywords.map fun (k, v) => (.text k, v)) none

def bind (s : Signature) (positional : List Value) (keywords : Arguments) :
    Except Fault Arguments := do
  let (first, left) ← bindPositional keywords s positional
  let (second, extra) ← bindKeywords left keywords
  match extra, left.find? (·.kind = .restKeyword) with
  | [], _ => .ok (first ++ second)
  | extra, some p => .ok (first ++ second ++ [(p.name, gathered extra)])
  | (k, _) :: _, none => .error (.unexpectedKeyword k)

/-- What a parameter is given if no argument is bound to it. -/
def leftOut (p : Parameter) : Option Value :=
  match p.default, p.kind with
  | some v, _ => some v
  | none, .restPositional => some (.tuple [])
  | none, .restKeyword => some (.dict [] none)
  | none, _ => none

/-- The arguments of all parameters, in order. -/
def complete (s : Signature) (bound : Arguments) : Arguments :=
  s.filterMap fun p => ((bound.lookup p.name).or (leftOut p)).map fun v => (p.name, v)

/-! ### Passing arguments on -/

/-- The positional arguments in what a parameter gathered. -/
def gatheredItems : Value → Except Fault (List Value)
  | .tuple items => .ok items
  | v => .error (.notIterable v.typeName)

/-- The keyword arguments in what a parameter gathered.  The entries of a dictionary cannot be read
through a handle, but one without entries has none to read. -/
def gatheredKeywords : Value → Except Fault Arguments
  | .dict entries _ => .ok (entries.filterMap fun (k, v) => k.text?.map (·, v))
  | .handle _ (.dict [] _) => .ok []
  | .handle variant (.dict ..) => .error (.notSubscriptable variant.name)
  | v => .error (.notIterable v.typeName)

/-- The argument of a parameter can be passed on by position. -/
def isPositional (arguments : Arguments) (p : Parameter) : Bool :=
  !p.kind.isByKeyword && (arguments.lookup p.name).isSome

/-- What is passed on by position: the arguments before the first one that cannot be. -/
def positionalOf (s : Signature) (arguments : Arguments) : Except Fault (List Value) := do
  let groups ← (s.takeWhile (isPositional arguments)).mapM fun p =>
    let v := (arguments.lookup p.name).getD .none
    if p.kind = .restPositional then gatheredItems v else .ok [v]
  .ok groups.flatten

/-- What is passed on by keyword: the arguments from there on. -/
def keywordsOf (s : Signature) (arguments : Arguments) : Except Fault Arguments :=
  (s.dropWhile (isPositional arguments)).foldlM (fun keywords p =>
    match arguments.lookup p.name with
    | none => .ok keywords
    | some v =>
      if p.kind = .restKeyword then (gatheredKeywords v).map keywords.update
      else .ok (keywords.set p.name v)) []

/-- What a parameter takes from the arguments that are left in a call, and what it leaves. -/
def take (p : Parameter) (positional : List Value) (keywords : Arguments) :
    Except Fault (Value × List Value × Arguments) :=
  match p.kind, positional, keywords.lookup p.name with
  | .restPositional, values, _ => .ok (.tuple values, [], keywords)
  | .restKeyword, values, _ => .ok (gathered keywords, values, [])
  | .positionalOnly, v :: values, _ => .ok (v, values, keywords)
  | .positionalOrKeyword, v :: values, none => .ok (v, values, keywords)
  | .positionalOrKeyword, _ :: _, some _ => .error (.multipleValues p.name)
  | .positionalOrKeyword, [], some v => .ok (v, [], keywords.filter (·.1 != p.name))
  | .keywordOnly, values, some v => .ok (v, values, keywords.filter (·.1 != p.name))
  | .positionalOnly, [], _ | .positionalOrKeyword, [], none | .keywordOnly, _, none =>
    match p.default with
    | some v => .ok (v, positional, keywords)
    | none => .error (.missingArgument p.name)

/-- The arguments that a function receives in a call, each under the name of its parameter. -/
def receive : Signature → List Value → Arguments → Except Fault Arguments
  | [], [], [] => .ok []
  | [], _ :: _, _ => .error .tooManyPositional
  | [], [], (k, _) :: _ => .error (.unexpectedKeyword k)
  | p :: rest, positional, keywords => do
    let (v, positional, keywords) ← take p positional keywords
    let others ← receive rest positional keywords
    .ok ((p.name, v) :: others)

/-- Calls the function with the given arguments: they are passed on by position and by keyword, and
the function receives them again. -/
def passOn (s : Signature) (arguments : Arguments) : Except Fault Arguments := do
  let positional ← s.positionalOf arguments
  let keywords ← s.keywordsOf arguments
  s.receive positional keywords

end Signature

end Strided.Defaults
