import Strided.Slice
import Strided.Value.Dictionary
import Strided.Value.Printer

/-!
# Subscripts of values

A text, a list, a tuple and bytes are subscripted with an index or a slice, and a dictionary with a
key.  Nothing else has items.
-/

namespace Strided

namespace Slice

/-- A field of a slice of a plain sequence: what is no integer is refused, and faults of its own
pass. -/
def plainField (v : Value) : Except Fault (Option Int) :=
  match v with
  | .none => .ok none
  | v =>
    match v.toIndex with
    | .ok n => .ok (some n)
    | .error (.notAnInteger _) => .error .plainFieldNotInteger
    | .error e => .error e

/-- Reads the fields of a slice of a plain sequence, the step first. -/
def ofPlainValues (start stop step : Value) : Except Fault Slice := do
  let step ← plainField step
  if step = some 0 then .error .plainZeroStep
  else
    let start ← plainField start
    let stop ← plainField stop
    .ok ⟨start, stop, step⟩

end Slice

namespace Value

def sequenceKind? (v : Value) : Option SequenceKind :=
  match v with
  | list .. => some .list
  | tuple _ => some .tuple
  | v => if v.text?.isSome then some .text else if v.bytes?.isSome then some .bytes else Option.none

def ofItems : SequenceKind → List Value → Value
  | .list, items => list items Option.none
  | .tuple, items => tuple items
  | .text, items => text (String.join (items.filterMap text?))
  | .bytes, items => bytes (items.filterMap fun
    | int n => some (UInt8.ofNat n.toNat)
    | _ => Option.none)

/-- The element of a sequence at an index; `typeName` is the type of what was used as the index. -/
def elementOf {α : Type} (kind : SequenceKind) (items : List α) (typeName : String) (i : Int) :
    Except Fault α :=
  if !Number.Word.fits i then .error (.indexTooWide typeName)
  else
    let j := if i < 0 then i + items.length else i
    if j < 0 then .error (.beyondSequence kind)
    else
      match items[j.toNat]? with
      | some v => .ok v
      | Option.none => .error (.beyondSequence kind)

def valueOfKey (entries : List (Value × Value)) (key : Value) : Except Fault Value := do
  match ← Dictionary.find? entries key with
  | some e => .ok e.2
  | Option.none =>
    let shown ← key.display
    .error (.missingKey shown)

def subscriptSequence (kind : SequenceKind) (items : List Value) (subscript : Value) :
    Except Fault Value :=
  match subscript with
  | slice start stop step => do
    let s ← Slice.ofPlainValues start stop step
    (s.select items).map (ofItems kind)
  | subscript =>
    match subscript.toIndex with
    | .ok i => elementOf kind items subscript.familyTypeName i
    | .error (.notAnInteger t) => .error (.wrongSubscript kind t)
    | .error e => .error e

/-- Subscripts a value.  `items` are its elements, if it has any. -/
def subscriptWith (v : Value) (items : Option (List Value)) (subscript : Value) :
    Except Fault Value :=
  match v with
  | dict entries _ => valueOfKey entries subscript
  | v =>
    match v.sequenceKind?, items, v with
    | some kind, some items, _ => subscriptSequence kind items subscript
    | _, _, scalar .. =>
      match subscript with
      | tuple [] => .ok v
      | _ => .error .noNumberSubscripts
    | _, _, _ => .error (.notSubscriptable v.typeName)

def subscript (v : Value) (s : Value) : Except Fault Value := v.subscriptWith v.items? s

end Value

end Strided
