/-!
Slices of texts between positions that count bytes. A position is in a text only
where it falls between two of its characters or at one of its ends.
-/

namespace Reckon.Text

-- Sums of natural numbers are those of the core library, whatever else is imported.
attribute [local instance (high)] Zero.ofOfNat0

/-- The two sides of a position, if it is in the text. -/
def splitAtByte? : Nat → List Char → Option (List Char × List Char)
  | 0, text => some ([], text)
  | _ + 1, [] => none
  | position + 1, character :: rest =>
      if character.utf8Size ≤ position + 1 then
        (splitAtByte? (position + 1 - character.utf8Size) rest).map fun (before, after) =>
          (character :: before, after)
      else
        none

/-- What stands in a text from one position on, if it is in the text. -/
def fromByte? (first : Nat) (text : List Char) : Option (List Char) :=
  (splitAtByte? first text).map Prod.snd

/-- What stands between two positions, if they are in the text and in order. -/
def sliceBytes? (first last : Nat) (text : List Char) : Option (List Char) :=
  (splitAtByte? last text).bind fun (before, _) => fromByte? first before

def byteCount (text : List Char) : Nat :=
  (text.map Char.utf8Size).sum

/-! ## Laws -/

/-- A position is in a text exactly where it counts the bytes of a first part. -/
theorem splitAtByte?_eq_some_iff
    {position : Nat} {text before after : List Char} :
    splitAtByte? position text = some (before, after) ↔
      text = before ++ after ∧ byteCount before = position := by
  induction text generalizing position before with
  | nil =>
      cases position with
      | zero =>
          simp only [splitAtByte?, Option.some.injEq, Prod.mk.injEq]
          constructor
          · rintro ⟨rfl, rfl⟩
            exact ⟨rfl, rfl⟩
          · rintro ⟨equality, _⟩
            obtain ⟨rfl, rfl⟩ := List.append_eq_nil_iff.1 equality.symm
            exact ⟨rfl, rfl⟩
      | succ position =>
          simp only [splitAtByte?, reduceCtorEq, false_iff, not_and]
          intro equality
          obtain ⟨rfl, _⟩ := List.append_eq_nil_iff.1 equality.symm
          simp [byteCount]
  | cons character rest inductionHypothesis =>
      have positive := character.utf8Size_pos
      cases position with
      | zero =>
          simp only [splitAtByte?, Option.some.injEq, Prod.mk.injEq]
          constructor
          · rintro ⟨rfl, rfl⟩
            exact ⟨rfl, rfl⟩
          · rintro ⟨equality, count⟩
            cases before with
            | nil => exact ⟨rfl, by simpa using equality⟩
            | cons first others =>
                have positiveFirst := first.utf8Size_pos
                simp only [byteCount, List.map_cons, List.sum_cons] at count
                omega
      | succ position =>
          cases before with
          | nil =>
              simp [splitAtByte?, byteCount]
          | cons first others =>
              simp only [splitAtByte?, List.cons_append, List.cons.injEq, byteCount,
                List.map_cons, List.sum_cons]
              constructor
              · intro found
                split at found
                · next bound =>
                    obtain ⟨⟨front, back⟩, split, equality⟩ := Option.map_eq_some_iff.1 found
                    injection equality with frontEquality backEquality
                    injection frontEquality with headEquality tailEquality
                    subst headEquality tailEquality backEquality
                    obtain ⟨whole, count⟩ := inductionHypothesis.1 split
                    refine ⟨⟨rfl, whole⟩, ?_⟩
                    simp only [byteCount] at count ⊢
                    omega
                · simp at found
              · rintro ⟨⟨rfl, whole⟩, count⟩
                have bound : character.utf8Size ≤ position + 1 := by omega
                have split : splitAtByte? (position + 1 - character.utf8Size) rest =
                    some (others, after) :=
                  inductionHypothesis.2 ⟨whole, by simp only [byteCount]; omega⟩
                simp [bound, split]

end Reckon.Text
