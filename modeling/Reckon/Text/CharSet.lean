/-!
Sets of characters given as ranges of code points, the form in which the
character classes of this library are written down.
-/

namespace Reckon.Text

/-- A set of characters, as ranges of code points whose two ends both belong. -/
abbrev CharSet := List (Nat × Nat)

namespace CharSet

def contains (set : CharSet) (character : Char) : Bool :=
  set.any fun range =>
    range.1 ≤ character.toNat && character.toNat ≤ range.2

theorem contains_iff (set : CharSet) (character : Char) :
    set.contains character = true ↔
      ∃ range ∈ set,
        range.1 ≤ character.toNat ∧ character.toNat ≤ range.2 := by
  simp [contains]

end CharSet

end Reckon.Text
