import Strided.Value.Basic

/-!
# Values as integers

Integers, booleans, integers of a storage type and objects made for the purpose can be used as an
index.
-/

namespace Strided.Value

/-- The integer that an object answers with, if the answer is one. -/
def answerInteger : Value → Except Fault Int
  | bool b => .ok (if b then 1 else 0)
  | int n => .ok n
  | v => .error (.indexNotInteger v.familyTypeName)

def toIndex : Value → Except Fault Int
  | bool b => .ok (if b then 1 else 0)
  | int n => .ok n
  | scalar _ (.int n) _ => .ok n
  | index answer _ => answer.answerInteger
  | badIndex kind message _ => .error (.raised kind message)
  | v => .error (.notAnInteger v.familyTypeName)

@[simp] theorem toIndex_int (n : Int) : (int n).toIndex = .ok n := rfl

end Strided.Value
