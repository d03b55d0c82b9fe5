/-!
How deep the parts of a pattern nest. Parts that stand side by side make one part
that is deeper by one, unless there is just one of them.
-/

namespace Reckon.Pattern

/-- The height of what parts of the given heights make side by side. -/
def heightOf : List Nat → Nat
  | [] => 0
  | [height] => height
  | heights => 1 + heights.foldl max 0

def greatestHeight : Nat :=
  250

end Reckon.Pattern
