/-!
# Sets of characters given as code point ranges

A property of characters that a standard fixes by table is kept as an ascending list of closed
ranges of code points, and membership is one walk along that list.
-/

namespace ClassRename.Text

/-- An ascending list of closed ranges of code points. -/
abbrev CodeRanges := List (Nat × Nat)

namespace CodeRanges

/-- A code is in the set when some range holds it; the walk stops at the first later range. -/
def holds : CodeRanges → Nat → Bool
  | [], _ => false
  | (first, last) :: later, code =>
    if code < first then false else if code ≤ last then true else holds later code

end CodeRanges

end ClassRename.Text
