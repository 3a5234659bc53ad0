import Strided.Value.Equality

/-!
# Dictionaries

A dictionary has one entry for each key, in the order in which the keys first came.  Keys are told
apart by hash and equality; what has no hash is no key.
-/

namespace Strided.Dictionary

def find? (entries : List (Value × Value)) (key : Value) : Except Fault (Option (Value × Value)) := do
  let hash ← key.hashKey
  entries.findM? fun e => do
    if hash.equals (← e.1.hashKey) then e.1.same key else .ok false

/-- Adds an entry.  A key that is there keeps its place and its form, and takes the new value. -/
def insert (key value : Value) : List (Value × Value) → Except Fault (List (Value × Value))
  | [] => do
    let _ ← key.hashKey
    .ok [(key, value)]
  | (k, v) :: rest => do
    let hash ← key.hashKey
    let met ← if hash.equals (← k.hashKey) then k.same key else .ok false
    if met then .ok ((k, value) :: rest)
    else
      let rest ← insert key value rest
      .ok ((k, v) :: rest)

/-- The dictionary with the given entries, of which later ones replace earlier ones. -/
def ofPairs (pairs : List (Value × Value)) : Except Fault (List (Value × Value)) :=
  pairs.foldlM (fun entries (k, v) => insert k v entries) []

end Strided.Dictionary
