import Reckon.Text.CharSet

/-!
White space: which characters count as blank, and how texts are trimmed and
cut at them.
-/

namespace Reckon.Text

/-- The twenty-five characters with the property `White_Space`. -/
def blankSet : CharSet :=
  [(0x9, 0xD), (0x20, 0x20), (0x85, 0x85), (0xA0, 0xA0), (0x1680, 0x1680),
    (0x2000, 0x200A), (0x2028, 0x2029), (0x202F, 0x202F), (0x205F, 0x205F),
    (0x3000, 0x3000)]

/-- A character is blank when it has the property `White_Space`. -/
def isBlank (character : Char) : Bool :=
  blankSet.contains character

/-- The characters from the first one that is not blank. -/
def dropBlank (text : List Char) : List Char :=
  text.dropWhile isBlank

/-- The characters up to the last one that fails `drop`. -/
def dropTrailing (drop : Char → Bool) (text : List Char) : List Char :=
  (text.reverse.dropWhile drop).reverse

/-- The characters between the first and the last one that is not blank. -/
def trimBlank (text : List Char) : List Char :=
  dropTrailing isBlank (dropBlank text)

/-- The two sides of the first blank, which itself belongs to neither. -/
def cutAtBlank : List Char → Option (List Char × List Char)
  | [] => none
  | character :: rest =>
      if isBlank character then
        some ([], rest)
      else
        (cutAtBlank rest).map fun (before, after) =>
          (character :: before, after)

/-! ## Laws -/

theorem isBlank_head_of_dropBlank
    {text rest : List Char} {character : Char}
    (equality : dropBlank text = character :: rest) :
    isBlank character = false := by
  induction text with
  | nil => simp [dropBlank] at equality
  | cons first remaining inductionHypothesis =>
      by_cases blank : isBlank first = true
      · apply inductionHypothesis
        simpa [dropBlank, List.dropWhile_cons, blank] using equality
      · simp only [dropBlank, List.dropWhile_cons, blank] at equality
        injection equality with headEquality _
        subst headEquality
        simpa using blank

/-- A text is cut exactly where its first blank stands. -/
theorem cutAtBlank_eq_some_iff
    {text before after : List Char} :
    cutAtBlank text = some (before, after) ↔
      ∃ blank, isBlank blank = true ∧
        (∀ character ∈ before, isBlank character = false) ∧
        text = before ++ blank :: after := by
  induction text generalizing before with
  | nil => simp [cutAtBlank]
  | cons first rest inductionHypothesis =>
      by_cases blankFirst : isBlank first = true
      · simp only [cutAtBlank, blankFirst, if_true, Option.some.injEq, Prod.mk.injEq]
        constructor
        · rintro ⟨rfl, rfl⟩
          exact ⟨first, blankFirst, by simp, rfl⟩
        · rintro ⟨blank, _, solid, equality⟩
          cases before with
          | nil =>
              injection equality with _ tailEquality
              exact ⟨rfl, tailEquality⟩
          | cons head tail =>
              injection equality with headEquality _
              subst headEquality
              simp [blankFirst] at solid
      · rw [cutAtBlank, if_neg blankFirst, Option.map_eq_some_iff]
        constructor
        · rintro ⟨⟨left, right⟩, found, equality⟩
          injection equality with leftEquality rightEquality
          subst leftEquality rightEquality
          obtain ⟨blank, isBlankBlank, solid, rfl⟩ := inductionHypothesis.1 found
          refine ⟨blank, isBlankBlank, ?_, rfl⟩
          intro character member
          rcases List.mem_cons.1 member with rfl | member
          · simpa using blankFirst
          · exact solid character member
        · rintro ⟨blank, isBlankBlank, solid, equality⟩
          cases before with
          | nil =>
              injection equality with headEquality _
              subst headEquality
              exact absurd isBlankBlank blankFirst
          | cons head tail =>
              injection equality with headEquality tailEquality
              subst headEquality
              refine ⟨(tail, after),
                inductionHypothesis.2 ⟨blank, isBlankBlank, ?_, tailEquality⟩, rfl⟩
              intro character member
              exact solid character (List.mem_cons_of_mem _ member)

end Reckon.Text
