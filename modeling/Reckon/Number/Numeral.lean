import Reckon.Number.Decimal

/-!
Numerals: the written form of unsigned decimal numbers, with a point, an
exponent or both, kept character by character.
-/

namespace Reckon.Number

def isDigit (character : Char) : Bool :=
  '0' ≤ character && character ≤ '9'

def digitsValue (digits : List Char) : Nat :=
  Nat.ofDigitChars 10 digits 0

/-- An exponent: the letter with the sign after it, if any, and the digits. -/
structure ExponentPart where
  mark : List Char
  digits : List Char
deriving DecidableEq

def ExponentPart.value (part : ExponentPart) : Int :=
  if '-' ∈ part.mark then
    -(digitsValue part.digits : Int)
  else
    digitsValue part.digits

/-- A numeral: the digits before the point, those after it where there is a
point, and the exponent where there is one. -/
structure Numeral where
  whole : List Char
  fraction : Option (List Char)
  exponent : Option ExponentPart
deriving DecidableEq

namespace Numeral

def text (numeral : Numeral) : List Char :=
  numeral.whole ++
    (match numeral.fraction with
    | some digits => '.' :: digits
    | none => []) ++
    (match numeral.exponent with
    | some part => part.mark ++ part.digits
    | none => [])

/-- The digits after the point, none where there is no point. -/
def fractionDigits (numeral : Numeral) : List Char :=
  numeral.fraction.getD []

def exponentValue (numeral : Numeral) : Int :=
  match numeral.exponent with
  | some part => part.value
  | none => 0

def decimal (numeral : Numeral) : Decimal :=
  ⟨digitsValue (numeral.whole ++ numeral.fractionDigits),
    numeral.exponentValue - numeral.fractionDigits.length⟩

/-- The longest run of digits at the start of a text, and what follows it. -/
def spanDigits (text : List Char) : List Char × List Char :=
  (text.takeWhile isDigit, text.dropWhile isDigit)

/-- The digits that complete an exponent after its letter and sign; an exponent
needs one digit at least. -/
def completeExponent (mark rest : List Char) :
    Option (ExponentPart × List Char) :=
  match spanDigits rest with
  | ([], _) => none
  | (digits, rest) => some (⟨mark, digits⟩, rest)

/-- An exponent at the start of a text, and what follows it. -/
def spanExponent : List Char → Option (ExponentPart × List Char)
  | letter :: rest =>
      if letter = 'e' ∨ letter = 'E' then
        match rest with
        | sign :: digits =>
            if sign = '+' ∨ sign = '-' then
              completeExponent [letter, sign] digits
            else
              completeExponent [letter] rest
        | [] => none
      else
        none
  | [] => none

/-- The digits around a point at the start of a text, and what follows them.
A point needs a digit on one side at least. -/
def spanMantissa (text : List Char) :
    Option (List Char × Option (List Char) × List Char) :=
  match spanDigits text with
  | ([], '.' :: rest) =>
      match spanDigits rest with
      | ([], _) => none
      | (fraction, rest) => some ([], some fraction, rest)
  | ([], _) => none
  | (whole, '.' :: rest) =>
      some (whole, some (spanDigits rest).1, (spanDigits rest).2)
  | (whole, rest) => some (whole, none, rest)

/-- The longest numeral at the start of a text, and what follows it. -/
def scan (text : List Char) : Option (Numeral × List Char) :=
  match spanMantissa text with
  | none => none
  | some (whole, fraction, rest) =>
      match spanExponent rest with
      | some (exponent, rest) => some (⟨whole, fraction, some exponent⟩, rest)
      | none => some (⟨whole, fraction, none⟩, rest)

/-! ## Laws -/

private theorem spanDigits_append (text : List Char) :
    (spanDigits text).1 ++ (spanDigits text).2 = text := by
  simp [spanDigits]

private theorem spanExponent_eq_some
    {text rest : List Char} {part : ExponentPart}
    (found : spanExponent text = some (part, rest)) :
    text = part.mark ++ part.digits ++ rest := by
  have complete :
      ∀ (mark remaining : List Char),
        completeExponent mark remaining = some (part, rest) →
          mark ++ remaining = part.mark ++ part.digits ++ rest := by
    intro mark remaining completed
    unfold completeExponent at completed
    have split := spanDigits_append remaining
    cases equality : spanDigits remaining with
    | mk digits after =>
        rw [equality] at completed split
        cases digits with
        | nil => simp at completed
        | cons first others =>
            simp only [Option.some.injEq, Prod.mk.injEq] at completed
            obtain ⟨rfl, rfl⟩ := completed
            simp only at split
            simp [← split]
  cases text with
  | nil => simp [spanExponent] at found
  | cons letter remaining =>
      simp only [spanExponent] at found
      split at found
      · cases remaining with
        | nil => simp at found
        | cons sign digits =>
            simp only at found
            split at found
            · simpa using complete [letter, sign] digits found
            · simpa using complete [letter] (sign :: digits) found
      · simp at found

private theorem spanMantissa_eq_some
    {text whole rest : List Char} {fraction : Option (List Char)}
    (found : spanMantissa text = some (whole, fraction, rest)) :
    text = (⟨whole, fraction, none⟩ : Numeral).text ++ rest := by
  have split := spanDigits_append text
  unfold spanMantissa at found
  cases equality : spanDigits text with
  | mk digits after =>
      rw [equality] at found split
      simp only at split
      subst split
      split at found
      · next remaining pair =>
          have inner := spanDigits_append remaining
          cases innerEquality : spanDigits remaining with
          | mk fractionDigits afterFraction =>
              rw [innerEquality] at found inner
              cases fractionDigits with
              | nil => simp at found
              | cons first others =>
                  simp only [Option.some.injEq, Prod.mk.injEq] at found pair
                  obtain ⟨rfl, rfl, rfl⟩ := found
                  obtain ⟨rfl, rfl⟩ := pair
                  simp only at inner
                  simp [text, ← inner]
      · simp at found
      · next remaining _ pair =>
          have inner := spanDigits_append remaining
          simp only [Option.some.injEq, Prod.mk.injEq] at found pair
          obtain ⟨rfl, rfl, rfl⟩ := found
          obtain ⟨rfl, rfl⟩ := pair
          simp [text, inner]
      · next pair =>
          simp only [Option.some.injEq, Prod.mk.injEq] at found pair
          obtain ⟨rfl, rfl, rfl⟩ := found
          obtain ⟨rfl, rfl⟩ := pair
          simp [text]

/-- A numeral that is scanned and what follows it are the text. -/
theorem scan_eq_some
    {text rest : List Char} {numeral : Numeral}
    (found : scan text = some (numeral, rest)) :
    text = numeral.text ++ rest := by
  unfold scan at found
  split at found
  · simp at found
  · next whole fraction remaining mantissa =>
      have front := spanMantissa_eq_some mantissa
      split at found
      · next part afterExponent exponent =>
          have back := spanExponent_eq_some exponent
          simp only [Option.some.injEq, Prod.mk.injEq] at found
          obtain ⟨rfl, rfl⟩ := found
          rw [front, back]
          simp [Numeral.text]
      · simp only [Option.some.injEq, Prod.mk.injEq] at found
        obtain ⟨rfl, rfl⟩ := found
        exact front

/-- A mantissa has a digit, before the point or after it. -/
theorem mantissa_ne_nil
    {text whole rest : List Char} {fraction : Option (List Char)}
    (found : spanMantissa text = some (whole, fraction, rest)) :
    whole ++ fraction.getD [] ≠ [] := by
  unfold spanMantissa at found
  split at found
  · split at found
    · simp at found
    · next notEmpty _ =>
        simp only [Option.some.injEq, Prod.mk.injEq] at found
        obtain ⟨rfl, rfl, rfl⟩ := found
        simpa using notEmpty
  · simp at found
  · next notEmpty _ =>
      simp only [Option.some.injEq, Prod.mk.injEq] at found
      obtain ⟨rfl, rfl, rfl⟩ := found
      simp [show _ ≠ [] from notEmpty]
  · next notEmpty _ _ =>
      simp only [Option.some.injEq, Prod.mk.injEq] at found
      obtain ⟨rfl, rfl, rfl⟩ := found
      simp [show _ ≠ [] from notEmpty]

/-- What follows a scanned numeral is shorter than the text. -/
theorem length_scan_lt
    {text rest : List Char} {numeral : Numeral}
    (found : scan text = some (numeral, rest)) :
    rest.length < text.length := by
  have whole := scan_eq_some found
  have digits : numeral.whole ++ numeral.fractionDigits ≠ [] := by
    unfold scan at found
    split at found
    · simp at found
    · next mantissa =>
        have notEmpty := mantissa_ne_nil mantissa
        split at found <;>
        · simp only [Option.some.injEq, Prod.mk.injEq] at found
          obtain ⟨rfl, rfl⟩ := found
          exact notEmpty
  have visible : numeral.text ≠ [] := by
    intro empty
    apply digits
    simp only [Numeral.text, List.append_eq_nil_iff] at empty
    obtain ⟨⟨noWhole, noFraction⟩, _⟩ := empty
    cases equality : numeral.fraction with
    | none => simp [fractionDigits, noWhole, equality]
    | some digits => simp [equality] at noFraction
  rw [whole, List.length_append]
  have := List.length_pos_iff.2 visible
  omega

end Numeral

end Reckon.Number
