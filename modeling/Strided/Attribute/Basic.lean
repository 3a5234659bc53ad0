import Strided.Value.Basic

/-!
# Attributes

An attribute of a value is another value or a method.  A method is known by what it comes to when it
is called without arguments; it may change the object that it belongs to.
-/

namespace Strided

/-- An attribute. -/
inductive Attribute where
  | value (v : Value)
  /-- A method with what it answers. -/
  | method (answer : Except Fault Value)
  /-- A method that changes the object of the given identity, with what it answers and what the
  object is afterwards. -/
  | change (answer : Except Fault Value) (mark : Mark) (after : Value)

namespace Attribute

def answers (v : Value) : Attribute := method (.ok v)

def text (s : List Char) : Attribute := answers (.text (String.ofList s))

def flag (b : Bool) : Attribute := answers (.bool b)

def int (n : Int) : Attribute := answers (.int n)

def fails (f : Fault) : Attribute := method (.error f)

def oneArgument (owner name : String) : Attribute :=
  fails (.argumentsMissing s!"{owner}.{name}() takes exactly one argument (0 given)")

def oneOrMore (name : String) : Attribute :=
  fails (.argumentsMissing s!"{name}() takes at least 1 argument (0 given)")

/-- A method that takes `n` arguments or more. -/
def expectsAtLeast (name : String) (n : Nat) : Attribute :=
  let things := if n = 1 then "argument" else "arguments"
  fails (.argumentsMissing s!"{name} expected at least {n} {things}, got 0")

/-- A method that takes `n` arguments. -/
def expects (name : String) (n : Nat) : Attribute :=
  fails (.argumentsMissing s!"{name} expected {n} arguments, got 0")

def call : Attribute → Except Fault Value
  | method answer => answer
  | change answer _ _ => answer
  | value v => .error (.notCallable v.familyTypeName)

/-- The object that calling an attribute changes, and what it is afterwards. -/
def change? : Attribute → Option (Nat × Value)
  | change _ (some mark) after => some (mark, after)
  | _ => none

/-- An attribute as a value.  A method is none that could be shown. -/
def toValue : Attribute → Value
  | value v => v
  | _ => .none

end Attribute

end Strided
