import Strided.Value.Basic

/-!
# Contents

A list or a dictionary can change after it came up, and whoever holds it then finds it changed.
`Contents` keeps what the changed ones hold by now, each under its identity; all others hold what
they held at first.  `Value.renew` shows a value with what its parts hold by now.

What a changed object holds is kept renewed itself, so that renewing a value looks at it no further.
-/

namespace Strided

/-- What the changed objects hold by now. -/
abbrev Contents := List (Nat × Value)

namespace Contents

/-- The object of an identity as it is by now, if it has changed. -/
def now? (c : Contents) (mark : Mark) : Option Value := mark.bind fun m => c.lookup m

end Contents

namespace Value

mutual

def renew (c : Contents) : Value → Value
  | list items mark => (c.now? mark).getD (list (renewAll c items) mark)
  | dict entries mark => (c.now? mark).getD (dict (renewEntries c entries) mark)
  | tuple items => tuple (renewAll c items)
  | slice start stop step => slice (renew c start) (renew c stop) (renew c step)
  | index answer mark => index (renew c answer) mark
  | handle variant referent => handle variant (renew c referent)
  | v => v

def renewAll (c : Contents) : List Value → List Value
  | [] => []
  | v :: rest => renew c v :: renewAll c rest

/-- The entries of a dictionary as they are by now.  What can change is no key. -/
def renewEntries (c : Contents) : List (Value × Value) → List (Value × Value)
  | [] => []
  | (k, v) :: rest => (k, renew c v) :: renewEntries c rest

end

end Value

namespace Contents

/-- Notes that an object holds something else now.  The other changed objects may hold it too. -/
def change (c : Contents) (mark : Nat) (v : Value) : Contents :=
  (mark, v) :: (c.filter (·.1 != mark)).map fun (m, w) => (m, w.renew [(mark, v)])

end Contents

end Strided
