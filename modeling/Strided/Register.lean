import Strided.Value.Item

/-!
# Registers

What comes up in a script is entered into a register and referred to by its number afterwards.  A
negative number counts from the latest entry.
-/

namespace Strided

/-- Entries in the order in which they came up. -/
abbrev Register (α : Type) := List α

namespace Register

variable {α : Type}

def entry (r : Register α) (number : Int) : Except Fault α :=
  Value.elementOf .list r "int" number

/-- Adds an entry, whose number is how many there were. -/
def enter (r : Register α) (a : α) : Register α := r ++ [a]

end Register

end Strided
