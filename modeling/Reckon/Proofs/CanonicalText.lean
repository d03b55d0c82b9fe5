import Reckon.Proofs.FormulaText
import Reckon.Text.Casing

/-!
The text of a formula stands for the formula. Whatever the rules were that a formula was
read with, its text is read as the same formula without any rules; so two formulas have
the same text exactly if they are alike, token by token.
-/

namespace Reckon

namespace Token

/-- Equality of numbers is that of doubles, where a zero has a sign and one double is not
even equal to itself; but no token that can be read is one of these. -/
theorem alike_iff_eq {left right : Token} (readable : left.Readable)
    (otherReadable : right.Readable) : left.alike right = true ↔ left = right := by
  cases left with
  | number value =>
      cases right with
      | number other =>
          obtain ⟨finite, unsigned⟩ := readable
          obtain ⟨otherFinite, otherUnsigned⟩ := otherReadable
          rw [alike, Number.beq_iff_eq_of_unsigned finite unsigned otherFinite otherUnsigned,
            Token.number.injEq]
      | _ => simp [alike]
  | leftParen => cases right <;> simp [alike]
  | rightParen => cases right <;> simp [alike]
  | operator op => cases right <;> simp [alike]
  | name text => cases right <;> simp [alike]

theorem all_alike_iff_eq {left right : List Token} (sameLength : left.length = right.length)
    (readable : ∀ token ∈ left, token.Readable)
    (otherReadable : ∀ token ∈ right, token.Readable) :
    ((left.zip right).all fun (first, second) => first.alike second) = true ↔ left = right := by
  induction left generalizing right with
  | nil =>
      have nothing : right = [] := List.length_eq_zero_iff.1 sameLength.symm
      simp [nothing]
  | cons token later inductionHypothesis =>
      cases right with
      | nil => cases sameLength
      | cons other otherLater =>
          obtain ⟨readableFirst, readableLater⟩ := List.forall_mem_cons.1 readable
          obtain ⟨otherFirst, readableOtherLater⟩ := List.forall_mem_cons.1 otherReadable
          have sameLengthLater : later.length = otherLater.length := Nat.succ.inj sameLength
          rw [List.zip_cons_cons, List.all_cons, Bool.and_eq_true,
            alike_iff_eq readableFirst otherFirst,
            inductionHypothesis sameLengthLater readableLater readableOtherLater,
            List.cons.injEq]

end Token

namespace Formula

theorem alike_iff_eq {formula other : Formula}
    (readable : ∀ token ∈ formula.tokens, token.Readable)
    (otherReadable : ∀ token ∈ other.tokens, token.Readable) :
    formula.alike other = true ↔ formula = other := by
  have sameTokens : formula = other ↔ formula.tokens = other.tokens :=
    ⟨congrArg Formula.tokens, fun same => by cases formula; cases other; exact congrArg _ same⟩
  rw [sameTokens, alike, Bool.and_eq_true, decide_eq_true_eq]
  constructor
  · intro alike
    obtain ⟨sameLength, allAlike⟩ := alike
    exact (Token.all_alike_iff_eq sameLength readable otherReadable).1 allAlike
  · intro same
    have sameLength : formula.tokens.length = other.tokens.length := congrArg List.length same
    exact ⟨sameLength, (Token.all_alike_iff_eq sameLength readable otherReadable).2 same⟩

theorem ofText_free_text {rules : NameRules} {input : String} {formula : Formula}
    (read : ofText rules input = .ok formula) : ofText .free formula.text = .ok formula :=
  ofText_text read (fun _ _ => rfl) fun _ _ => rfl

/-- The two texts need not have been read with the same rules. -/
theorem text_eq_iff_eq
    {rules otherRules : NameRules} {input otherInput : String} {formula other : Formula}
    (read : ofText rules input = .ok formula)
    (otherRead : ofText otherRules otherInput = .ok other) :
    formula.text = other.text ↔ formula = other := by
  constructor
  · intro sameText
    have readBack := ofText_free_text read
    rw [sameText, ofText_free_text otherRead] at readBack
    injection readBack with same
    exact same.symm
  · exact congrArg text

/-- The text of a formula is read, without rules for its names, as the same formula token
for token, whose text it is again; and formulas are alike exactly if they have the same
text, and then they are the same. -/
theorem ofText_free_text_and_alike_iff_text_eq
    (rules : NameRules) (input : String) (formula : Formula)
    (read : ofText rules input = .ok formula) :
    ofText .free formula.text = .ok formula ∧
    (ofText .free formula.text).map text = .ok formula.text ∧
    ∀ otherRules otherInput other, ofText otherRules otherInput = .ok other →
      (formula.alike other = true ↔ formula.text = other.text) ∧
        (formula = other ↔ formula.text = other.text) := by
  have readBack : ofText .free formula.text = .ok formula := ofText_free_text read
  refine ⟨readBack, ?_, ?_⟩
  · rw [readBack]
    rfl
  · intro otherRules otherInput other otherRead
    have sameText : formula.text = other.text ↔ formula = other := text_eq_iff_eq read otherRead
    rw [sameText]
    exact ⟨alike_iff_eq (readable_of_ofText read) (readable_of_ofText otherRead), Iff.rfl⟩

/-- Names in lower case and longer numerals than needed, where upper case is canonical;
the sum without its parentheses is another formula. -/
theorem ofText_free_text_and_alike_iff_text_eq_of_sum :
    let upper : NameRules := ⟨Text.upper, fun _ => true⟩
    let formula : Formula :=
      ⟨[.leftParen, .name "A", .operator .add, .number 2.5, .rightParen, .operator .mul,
        .name "B3", .operator .div, .number 40]⟩
    let other : Formula :=
      ⟨[.name "A", .operator .add, .number 2.5, .operator .mul, .name "B3", .operator .div,
        .number 40]⟩
    ofText upper "(a + 2.50) * b3 / 4e1" = .ok formula ∧
      ofText .free "A+2.5*B3/40" = .ok other ∧
      formula.text = "(A+2.5)*B3/40" ∧
      ofText .free formula.text = .ok formula ∧
      (formula.alike other = true ↔ formula.text = other.text) := by
  intro upper formula other
  have read : ofText upper "(a + 2.50) * b3 / 4e1" = .ok formula := by
    rw [← toOption_eq_some]
    decide +kernel
  have otherRead : ofText .free "A+2.5*B3/40" = .ok other := by
    rw [← toOption_eq_some]
    decide +kernel
  have written : formula.text = "(A+2.5)*B3/40" := by decide +kernel
  obtain ⟨readBack, _, settles⟩ :=
    ofText_free_text_and_alike_iff_text_eq upper "(a + 2.50) * b3 / 4e1" formula read
  exact ⟨read, otherRead, written, readBack, (settles .free "A+2.5*B3/40" other otherRead).1⟩

end Formula

end Reckon
