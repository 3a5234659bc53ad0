import Strided.Attribute.Basic
import Strided.Value.Order

/-!
# Attributes of containers

Lists and dictionaries can be changed: emptied, reversed, sorted, or relieved of their last item.
Tuples and slices cannot.
-/

namespace Strided.Attribute

def popLast (items : List Value) (mark : Mark) : Attribute :=
  match items.getLast? with
  | some v => change (.ok v) mark (.list items.dropLast mark)
  | none => fails .popFromEmpty

def popEntry (entries : List (Value × Value)) (mark : Mark) : Attribute :=
  match entries.getLast? with
  | some (k, v) => change (.ok (.tuple [k, v])) mark (.dict entries.dropLast mark)
  | none => fails .noEntries

def sorted (items : List Value) (mark : Mark) : Attribute :=
  match Value.sortItems items with
  | (items, none) => change (.ok .none) mark (.list items mark)
  | (items, some f) => change (.error f) mark (.list items mark)

def ofList? (items : List Value) (mark : Mark) (name : String) : Option Attribute :=
  match name with
  | "__len__" => some (int items.length)
  | "copy" => some (answers (.list items none))
  | "clear" => some (change (.ok .none) mark (.list [] mark))
  | "reverse" => some (change (.ok .none) mark (.list items.reverse mark))
  | "sort" => some (sorted items mark)
  | "pop" => some (popLast items mark)
  | "index" => some (expectsAtLeast name 1)
  | "insert" => some (expects name 2)
  | "append" | "count" | "extend" | "remove" => some (oneArgument "list" name)
  | _ => none

def ofTuple? (items : List Value) (name : String) : Option Attribute :=
  match name with
  | "__len__" => some (int items.length)
  | "index" => some (expectsAtLeast name 1)
  | "count" => some (oneArgument "tuple" name)
  | _ => none

def ofDict? (entries : List (Value × Value)) (mark : Mark) (name : String) : Option Attribute :=
  match name with
  | "__len__" => some (int entries.length)
  | "copy" => some (answers (.dict entries none))
  | "clear" => some (change (.ok .none) mark (.dict [] mark))
  | "update" => some (answers .none)
  | "popitem" => some (popEntry entries mark)
  | "fromkeys" | "setdefault" | "pop" => some (expectsAtLeast name 1)
  | _ => none

def ofSlice? (start stop step : Value) (name : String) : Option Attribute :=
  match name with
  | "start" => some (value start)
  | "stop" => some (value stop)
  | "step" => some (value step)
  | "indices" => some (oneArgument "slice" name)
  | _ => none

/-- The attribute of a fault.  Some kinds say what they are about, which is left open. -/
def ofFault? (kind : FaultKind) (message : String) (name : String) : Option Attribute :=
  match name with
  | "args" => some (value (.tuple [.text message]))
  | "__cause__" | "__context__" | "__traceback__" => some (value .none)
  | "__suppress_context__" => some (value (.bool false))
  | "add_note" | "with_traceback" => some (oneArgument kind.name name)
  | "errno" | "strerror" | "filename" | "filename2" =>
    if kind.isA .os then some (value .none) else none
  | "name" | "obj" => if kind.isA .missingAttribute then some (value .none) else none
  | "value" => if kind = .stopIteration then some (value (.text message)) else none
  | _ => none

end Strided.Attribute
