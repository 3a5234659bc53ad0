import Strided.Text.IntegerLiteral
import Strided.Text.Quoted
import Strided.Value.Basic

/-!
# Values as text

`display` is how a value is shown inside other values and in reports: text is quoted, and containers
show their elements.  An integer of too many digits is shown nowhere.
-/

namespace Strided.Value

/-- A number that has a storage type: the name of the type and the number. -/
def displayScalar (type : ElementType) (e : Element Empty) : String :=
  match e with
  | .bool b => if b then "np.True_" else "np.False_"
  | .text s => "np.str_(" ++ Text.quote s ++ ")"
  | .bytes b => "np.bytes_(" ++ Text.quoteBytes b ++ ")"
  | e => "np." ++ type.name ++ "(" ++ e.render type ++ ")"

/-- An integer as text, unless it has too many digits. -/
def displayInteger (n : Int) : Except Fault String :=
  if Text.isWritable n then .ok (toString n) else .error .tooManyDigits

mutual

def display : Value → Except Fault String
  | none => .ok "None"
  | bool b => .ok (if b then "True" else "False")
  | int n => displayInteger n
  | float d _ => .ok d.render
  | text s => .ok (Text.quote s)
  | bytes b => .ok (Text.quoteBytes b)
  | list items _ => do
    let shown ← displayItems items
    .ok ("[" ++ ", ".intercalate shown ++ "]")
  | tuple [item] => do
    let shown ← display item
    .ok ("(" ++ shown ++ ",)")
  | tuple items => do
    let shown ← displayItems items
    .ok ("(" ++ ", ".intercalate shown ++ ")")
  | dict entries _ => do
    let shown ← displayEntries entries
    .ok ("\x7b" ++ ", ".intercalate shown ++ "\x7d")
  | slice a b c => do
    let a ← display a
    let b ← display b
    let c ← display c
    .ok ("slice(" ++ a ++ ", " ++ b ++ ", " ++ c ++ ")")
  | scalar type e _ => .ok (displayScalar type e)
  | fault kind message _ => .ok (kind.name ++ "(" ++ Text.quote message ++ ")")
  | handle variant referent => do
    let shown ← display referent
    .ok (variant.name ++ "(referent=" ++ shown ++ ")")
  | index .. => .ok "<Index>"
  | badIndex .. => .ok "<IndexRaise>"
  | object cls _ => .ok ("<" ++ cls.name ++ ">")
  | receiver => .ok "<Module>"

def displayItems : List Value → Except Fault (List String)
  | [] => .ok []
  | v :: rest => do
    let first ← display v
    let others ← displayItems rest
    .ok (first :: others)

def displayEntries : List (Value × Value) → Except Fault (List String)
  | [] => .ok []
  | (k, v) :: rest => do
    let k ← display k
    let v ← display v
    let others ← displayEntries rest
    .ok ((k ++ ": " ++ v) :: others)

end

/-- The text of a value by itself: a text is its own. -/
def plain (v : Value) : Except Fault String :=
  match v.text? with
  | some s => .ok s
  | Option.none =>
    match v with
    | scalar type e _ => .ok (e.render type)
    | fault kind message _ => .ok (Fault.raised kind message).message
    | v => v.display

end Strided.Value
