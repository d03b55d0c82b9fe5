import Mathlib.Data.List.TakeWhile
import Reckon.Number.Numeral

/-!
The grammar of numerals: digits, with a point after some of them or before all of them,
and then an exponent or none. Scanning finds the longest numeral at the start of a text,
although it decides step by step whether a point or an exponent is there.
-/

namespace Reckon.Number

/-- An exponent is a letter, a sign or none, and at least one digit. -/
structure ExponentPart.Formed (part : ExponentPart) : Prop where
  marked : ∃ letter sign, part.mark = letter :: sign ∧ (letter = 'e' ∨ letter = 'E') ∧
    (sign = [] ∨ sign = ['+'] ∨ sign = ['-'])
  digits : ∀ character ∈ part.digits, isDigit character = true
  visible : part.digits ≠ []

namespace Numeral

/-- A numeral has at least one digit, before its point or after it. -/
structure Formed (numeral : Numeral) : Prop where
  whole : ∀ character ∈ numeral.whole, isDigit character = true
  fraction : ∀ character ∈ numeral.fractionDigits, isDigit character = true
  visible : numeral.whole ++ numeral.fractionDigits ≠ []
  exponent : ∀ part ∈ numeral.exponent, part.Formed

/-- The text does not go on with a numeral that stands before it. -/
def Ends (rest : List Char) : Prop :=
  ∀ next ∈ rest.head?, isDigit next = false ∧ next ≠ '.' ∧ next ≠ 'e' ∧ next ≠ 'E'

private theorem text_of_exponent
    (whole : List Char) (fraction : Option (List Char)) (part : ExponentPart) :
    text ⟨whole, fraction, some part⟩ =
      text ⟨whole, fraction, none⟩ ++ (part.mark ++ part.digits) := by
  simp [text]

theorem Formed.mem_text {numeral : Numeral} (formed : numeral.Formed) {character : Char}
    (listed : character ∈ numeral.text) :
    isDigit character = true ∨ character ∈ ['.', 'e', 'E', '+', '-'] := by
  obtain ⟨whole, fraction, exponent⟩ := numeral
  simp only [text, List.mem_append] at listed
  rcases listed with (inWhole | inFraction) | inExponent
  · exact Or.inl (formed.whole character inWhole)
  · cases fraction with
    | none => cases inFraction
    | some digits =>
        rcases List.mem_cons.1 inFraction with rfl | inDigits
        · exact Or.inr (by simp)
        · exact Or.inl (formed.fraction character inDigits)
  · cases exponent with
    | none => cases inExponent
    | some part =>
        obtain ⟨⟨letter, sign, mark, isLetter, isSign⟩, digits, _⟩ := formed.exponent part rfl
        rcases List.mem_append.1 inExponent with inMark | inDigits
        · rw [mark] at inMark
          rcases List.mem_cons.1 inMark with rfl | inSign
          · rcases isLetter with rfl | rfl <;> exact Or.inr (by simp)
          · rcases isSign with rfl | rfl | rfl
            · cases inSign
            · exact Or.inr (by simp_all)
            · exact Or.inr (by simp_all)
        · exact Or.inl (digits character inDigits)

/-! ## Digits -/

private theorem spanDigits_append_of_all
    {digits rest : List Char} (all : ∀ character ∈ digits, isDigit character = true)
    (ends : ∀ next ∈ rest.head?, isDigit next = false) :
    spanDigits (digits ++ rest) = (digits, rest) := by
  unfold spanDigits
  rw [List.takeWhile_append_of_pos all, List.dropWhile_append_of_pos all]
  cases rest with
  | nil => simp
  | cons next others =>
      have stops : isDigit next = false := ends next rfl
      simp [stops]

private theorem exists_spanDigits_append
    {digits : List Char} (all : ∀ character ∈ digits, isDigit character = true)
    (more : List Char) : ∃ others rest, spanDigits (digits ++ more) = (digits ++ others, rest) := by
  refine ⟨more.takeWhile isDigit, more.dropWhile isDigit, ?_⟩
  rw [spanDigits, List.takeWhile_append_of_pos all, List.dropWhile_append_of_pos all]

private theorem isDigit_of_spanDigits
    {text digits rest : List Char} (found : spanDigits text = (digits, rest)) :
    ∀ character ∈ digits, isDigit character = true := by
  injection found with same _
  intro character listed
  rw [← same] at listed
  exact List.mem_takeWhile_imp listed

/-! ## Exponents -/

private theorem completeExponent_of_spanDigits
    {rest digits after : List Char} (found : spanDigits rest = (digits, after))
    (visible : digits ≠ []) (mark : List Char) :
    completeExponent mark rest = some (⟨mark, digits⟩, after) := by
  unfold completeExponent
  rw [found]
  cases digits with
  | nil => exact absurd rfl visible
  | cons first others => rfl

private theorem spanDigits_of_completeExponent
    {mark rest after : List Char} {part : ExponentPart}
    (found : completeExponent mark rest = some (part, after)) :
    part.mark = mark ∧ spanDigits rest = (part.digits, after) ∧ part.digits ≠ [] := by
  unfold completeExponent at found
  cases spanned : spanDigits rest with
  | mk digits others =>
      rw [spanned] at found
      cases digits with
      | nil => cases found
      | cons first remaining =>
          simp only [Option.some.injEq, Prod.mk.injEq] at found
          obtain ⟨rfl, rfl⟩ := found
          exact ⟨rfl, rfl, by simp⟩

/-- The sign is not taken for a digit, nor the first digit for a sign. -/
theorem spanExponent_append
    {part : ExponentPart} (formed : part.Formed) (more : List Char) :
    spanExponent (part.mark ++ part.digits ++ more) =
      completeExponent part.mark (part.digits ++ more) := by
  obtain ⟨mark, digits⟩ := part
  obtain ⟨⟨letter, sign, same, isLetter, isSign⟩, all, visible⟩ := formed
  obtain rfl : mark = letter :: sign := same
  obtain ⟨first, others, rfl⟩ := List.exists_cons_of_ne_nil visible
  have digit : isDigit first = true := all first List.mem_cons_self
  have noSign : ¬ (first = '+' ∨ first = '-') := by
    rintro (rfl | rfl)
    · cases digit
    · cases digit
  rcases isSign with rfl | rfl | rfl
  · simp [spanExponent, isLetter, noSign]
  · simp [spanExponent, isLetter]
  · simp [spanExponent, isLetter]

private theorem formed_of_spanExponent
    {text rest : List Char} {part : ExponentPart}
    (found : spanExponent text = some (part, rest)) : part.Formed := by
  have complete : ∀ (letter : Char) (sign others : List Char),
      letter = 'e' ∨ letter = 'E' → sign = [] ∨ sign = ['+'] ∨ sign = ['-'] →
        completeExponent (letter :: sign) others = some (part, rest) → part.Formed := by
    intro letter sign others isLetter isSign completed
    obtain ⟨sameMark, spanned, visible⟩ := spanDigits_of_completeExponent completed
    exact ⟨⟨letter, sign, sameMark, isLetter, isSign⟩, isDigit_of_spanDigits spanned, visible⟩
  unfold spanExponent at found
  split at found
  · next letter others =>
      split at found
      · next isLetter =>
          split at found
          · next sign digits =>
              split at found
              · next isSign =>
                  apply complete letter [sign] digits isLetter _ found
                  rcases isSign with rfl | rfl
                  · exact Or.inr (Or.inl rfl)
                  · exact Or.inr (Or.inr rfl)
              · exact complete letter [] (sign :: digits) isLetter (Or.inl rfl) found
          · cases found
      · cases found
  · cases found

/-! ## Mantissas -/

private theorem spanMantissa_of_whole
    {text whole rest : List Char} (found : spanDigits text = (whole, rest)) (visible : whole ≠ [])
    (noPoint : ∀ next ∈ rest.head?, next ≠ '.') :
    spanMantissa text = some (whole, none, rest) := by
  obtain ⟨first, others, rfl⟩ := List.exists_cons_of_ne_nil visible
  unfold spanMantissa
  rw [found]
  cases rest with
  | nil => rfl
  | cons next after =>
      have different : next ≠ '.' := noPoint next rfl
      simp [different]

private theorem spanMantissa_of_point
    {text whole rest fraction after : List Char} (found : spanDigits text = (whole, '.' :: rest))
    (foundFraction : spanDigits rest = (fraction, after)) (visible : whole ++ fraction ≠ []) :
    spanMantissa text = some (whole, some fraction, after) := by
  unfold spanMantissa
  rw [found]
  cases whole with
  | nil =>
      obtain ⟨first, others, rfl⟩ := List.exists_cons_of_ne_nil visible
      simp [foundFraction]
  | cons first others => simp [foundFraction]

private theorem formed_of_spanMantissa
    {text whole rest : List Char} {fraction : Option (List Char)}
    (found : spanMantissa text = some (whole, fraction, rest)) :
    (⟨whole, fraction, none⟩ : Numeral).Formed := by
  have digits : (∀ character ∈ whole, isDigit character = true) ∧
      ∀ character ∈ fraction.getD [], isDigit character = true := by
    unfold spanMantissa at found
    split at found
    · split at found
      · cases found
      · next spanned =>
          simp only [Option.some.injEq, Prod.mk.injEq] at found
          obtain ⟨rfl, rfl, rfl⟩ := found
          exact ⟨by simp, isDigit_of_spanDigits spanned⟩
    · cases found
    · next spanned =>
        simp only [Option.some.injEq, Prod.mk.injEq] at found
        obtain ⟨rfl, rfl, rfl⟩ := found
        exact ⟨isDigit_of_spanDigits spanned, isDigit_of_spanDigits rfl⟩
    · next spanned =>
        simp only [Option.some.injEq, Prod.mk.injEq] at found
        obtain ⟨rfl, rfl, rfl⟩ := found
        exact ⟨isDigit_of_spanDigits spanned, by simp⟩
  exact ⟨digits.1, digits.2, mantissa_ne_nil found, by simp⟩

/-- A mantissa is read as itself up to where it ends. -/
theorem Formed.spanMantissa_append
    {whole : List Char} {fraction : Option (List Char)} {exponent : Option ExponentPart}
    (formed : (⟨whole, fraction, exponent⟩ : Numeral).Formed) {rest : List Char}
    (ends : ∀ next ∈ rest.head?, isDigit next = false ∧ next ≠ '.') :
    spanMantissa ((⟨whole, fraction, none⟩ : Numeral).text ++ rest) =
      some (whole, fraction, rest) := by
  obtain ⟨wholeDigits, fractionDigits, visible, _⟩ := formed
  cases fraction with
  | none =>
      have spanned : spanDigits (whole ++ rest) = (whole, rest) :=
        spanDigits_append_of_all wholeDigits fun next head => (ends next head).1
      simp only [text, List.append_nil]
      exact spanMantissa_of_whole spanned (by simpa [Numeral.fractionDigits] using visible)
        fun next head => (ends next head).2
  | some fraction =>
      have spannedWhole : spanDigits (whole ++ '.' :: (fraction ++ rest)) =
          (whole, '.' :: (fraction ++ rest)) :=
        spanDigits_append_of_all wholeDigits (by simp [isDigit])
      have spanned : spanDigits (fraction ++ rest) = (fraction, rest) :=
        spanDigits_append_of_all fractionDigits fun next head => (ends next head).1
      simp only [text, List.append_nil, List.append_assoc, List.cons_append]
      exact spanMantissa_of_point spannedWhole spanned visible

/-- Where digits follow a mantissa, or a point that it does not have, more is read. -/
theorem Formed.exists_spanMantissa_append
    {whole : List Char} {fraction : Option (List Char)} {exponent : Option ExponentPart}
    (formed : (⟨whole, fraction, exponent⟩ : Numeral).Formed) (more : List Char) :
    ∃ otherWhole otherFraction rest,
      spanMantissa ((⟨whole, fraction, none⟩ : Numeral).text ++ more) =
        some (otherWhole, otherFraction, rest) ∧
      (⟨whole, fraction, none⟩ : Numeral).text.length ≤
        (⟨otherWhole, otherFraction, none⟩ : Numeral).text.length := by
  obtain ⟨wholeDigits, fractionDigits, visible, _⟩ := formed
  cases fraction with
  | none =>
      obtain ⟨others, rest, spanned⟩ := exists_spanDigits_append wholeDigits more
      have visibleWhole : whole ++ others ≠ [] := by
        intro nothing
        exact visible (by simp [(List.append_eq_nil_iff.1 nothing).1, Numeral.fractionDigits])
      simp only [text, List.append_nil]
      by_cases point : ∃ after, rest = '.' :: after
      · obtain ⟨after, rfl⟩ := point
        have visibleDigits : whole ++ others ++ after.takeWhile isDigit ≠ [] := fun nothing =>
          visibleWhole (List.append_eq_nil_iff.1 nothing).1
        exact ⟨_, _, _, spanMantissa_of_point spanned rfl visibleDigits, by simp⟩
      · refine ⟨_, _, _, spanMantissa_of_whole spanned visibleWhole ?_, by simp⟩
        rintro next head rfl
        exact point (List.head?_eq_some_iff.1 head)
  | some fraction =>
      have spannedWhole : spanDigits (whole ++ '.' :: (fraction ++ more)) =
          (whole, '.' :: (fraction ++ more)) :=
        spanDigits_append_of_all wholeDigits (by simp [isDigit])
      obtain ⟨others, rest, spanned⟩ :=
        @exists_spanDigits_append fraction fractionDigits more
      have visibleDigits : whole ++ (fraction ++ others) ≠ [] := by
        intro nothing
        rw [← List.append_assoc] at nothing
        exact visible (List.append_eq_nil_iff.1 nothing).1
      simp only [text, List.append_nil, List.append_assoc, List.cons_append]
      exact ⟨_, _, _, spanMantissa_of_point spannedWhole spanned visibleDigits, by simp⟩

/-! ## Numerals -/

private theorem scan_of_spanMantissa
    {text whole rest : List Char} {fraction : Option (List Char)}
    (found : spanMantissa text = some (whole, fraction, rest)) :
    scan text =
      match spanExponent rest with
      | some (part, after) => some (⟨whole, fraction, some part⟩, after)
      | none => some (⟨whole, fraction, none⟩, rest) := by
  cases exponent : spanExponent rest with
  | none => simp only [scan, found, exponent]
  | some span => simp only [scan, found, exponent]

theorem formed_of_scan
    {text rest : List Char} {numeral : Numeral} (found : scan text = some (numeral, rest)) :
    numeral.Formed := by
  unfold scan at found
  split at found
  · cases found
  · next mantissa =>
      have formed := formed_of_spanMantissa mantissa
      split at found
      · next exponent =>
          simp only [Option.some.injEq, Prod.mk.injEq] at found
          obtain ⟨rfl, rfl⟩ := found
          refine ⟨formed.whole, formed.fraction, formed.visible, fun part same => ?_⟩
          injection same with samePart
          exact samePart ▸ formed_of_spanExponent exponent
      · simp only [Option.some.injEq, Prod.mk.injEq] at found
        obtain ⟨rfl, rfl⟩ := found
        exact formed

private theorem spanExponent_of_ends {rest : List Char} (ends : Ends rest) :
    spanExponent rest = none := by
  cases rest with
  | nil => rfl
  | cons next others =>
      obtain ⟨_, _, notSmall, notLarge⟩ := ends next rfl
      simp [spanExponent, notSmall, notLarge]

private theorem noDigit_of_head_exponent
    {part : ExponentPart} (formed : part.Formed) (more : List Char) :
    ∀ next ∈ (part.mark ++ part.digits ++ more).head?, isDigit next = false ∧ next ≠ '.' := by
  obtain ⟨letter, sign, same, isLetter, _⟩ := formed.marked
  rw [same]
  intro next head
  obtain rfl : letter = next := by simpa using head
  rcases isLetter with rfl | rfl
  · decide
  · decide

/-- A numeral is read as itself up to where it ends. -/
theorem Formed.scan_append
    {numeral : Numeral} (formed : numeral.Formed) {rest : List Char} (ends : Ends rest) :
    scan (numeral.text ++ rest) = some (numeral, rest) := by
  obtain ⟨whole, fraction, exponent⟩ := numeral
  cases exponent with
  | none =>
      have mantissa := formed.spanMantissa_append fun next head =>
        ⟨(ends next head).1, (ends next head).2.1⟩
      rw [scan_of_spanMantissa mantissa, spanExponent_of_ends ends]
  | some part =>
      have formedPart : part.Formed := formed.exponent part rfl
      have digits : spanDigits (part.digits ++ rest) = (part.digits, rest) :=
        spanDigits_append_of_all formedPart.digits fun next head => (ends next head).1
      have mantissa := formed.spanMantissa_append (noDigit_of_head_exponent formedPart rest)
      rw [text_of_exponent, List.append_assoc, scan_of_spanMantissa mantissa,
        spanExponent_append formedPart,
        completeExponent_of_spanDigits digits formedPart.visible]

theorem Formed.scan_text {numeral : Numeral} (formed : numeral.Formed) :
    scan numeral.text = some (numeral, []) := by
  have ends : Ends [] := by simp [Ends]
  simpa using formed.scan_append ends

theorem Formed.eq_of_text_eq
    {numeral other : Numeral} (formed : numeral.Formed) (otherFormed : other.Formed)
    (same : numeral.text = other.text) : numeral = other := by
  have scanned := formed.scan_text
  rw [same, otherFormed.scan_text] at scanned
  injection scanned with scanned
  injection scanned with sameNumeral _
  exact sameNumeral.symm

/-- No numeral at the start of a text is longer than the one that is scanned. -/
theorem Formed.exists_scan_append
    {numeral : Numeral} (formed : numeral.Formed) (more : List Char) :
    ∃ longest rest, scan (numeral.text ++ more) = some (longest, rest) ∧
      numeral.text.length ≤ longest.text.length := by
  obtain ⟨whole, fraction, exponent⟩ := numeral
  cases exponent with
  | none =>
      obtain ⟨otherWhole, otherFraction, rest, mantissa, longer⟩ :=
        formed.exists_spanMantissa_append more
      rw [scan_of_spanMantissa mantissa]
      cases spanExponent rest with
      | none => exact ⟨_, _, rfl, longer⟩
      | some found =>
          refine ⟨_, _, rfl, ?_⟩
          rw [text_of_exponent, List.length_append]
          omega
  | some part =>
      have formedPart : part.Formed := formed.exponent part rfl
      obtain ⟨others, rest, digits⟩ := exists_spanDigits_append formedPart.digits more
      have mantissa := formed.spanMantissa_append (noDigit_of_head_exponent formedPart more)
      have visible : part.digits ++ others ≠ [] := by
        simp [formedPart.visible]
      rw [text_of_exponent, List.append_assoc, scan_of_spanMantissa mantissa,
        spanExponent_append formedPart, completeExponent_of_spanDigits digits visible]
      refine ⟨_, _, rfl, ?_⟩
      simp [text_of_exponent]

end Numeral

end Reckon.Number
