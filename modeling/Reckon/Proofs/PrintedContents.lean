import Reckon.Proofs.Edits
import Reckon.Proofs.SettledNames

/-!
Contents and the texts that show them. Numbers, texts and formulas are shown without a mark
of their kind, so the text of one must not read as another. A number is shown by a numeral,
a formula after an equals sign, and a text is one that reads as neither; so what a cell
shows gives its contents again, and different contents show different texts.
-/

namespace Reckon

namespace Sheet

section

variable {sheet : Sheet} {input otherInput : String} {contents other : Contents}

theorem understand_inputText
    (settled : sheet.rules.Settled) (understood : sheet.understand input = .ok contents) :
    sheet.understand contents.inputText = .ok contents := by
  have given := understand_eq_ok.1 understood
  exact understand_eq_ok.2
    (Contents.ofInput_inputText given (settled.canonical_of_mem_names given))

theorem inputText_eq_iff_eq
    (settled : sheet.rules.Settled) (understood : sheet.understand input = .ok contents)
    (otherUnderstood : sheet.understand otherInput = .ok other) :
    other.inputText = contents.inputText ↔ other = contents := by
  constructor
  · intro sameText
    have again := understand_inputText settled otherUnderstood
    rw [sameText, understand_inputText settled understood] at again
    injection again with same
    exact same.symm
  · exact congrArg Contents.inputText

/-- The expression of a formula that a text gives is read as this formula. -/
theorem ofText_text_of_understand
    {formula : Formula} (settled : sheet.rules.Settled)
    (understood : sheet.understand input = .ok (.formula formula)) :
    Formula.ofText sheet.rules.forCells formula.text = .ok formula := by
  have again := understand_eq_ok.1 (understand_inputText settled understood)
  rw [Contents.ofInput_of_formula (Contents.number?_inputText_formula formula)
    (Contents.toList_inputText_formula formula), String.ofList_toList] at again
  obtain ⟨read, parsed, same⟩ := map_eq_ok.1 again
  injection same with same
  rw [same] at parsed
  exact parsed

/-- Contents that a text gives are given by the text that shows them as well: a number by a
numeral of the same double, a text by itself, which is neither a numeral nor after an equals
sign, and a formula by an equals sign and its tokens, which are no numeral. So contents that
show the same text are the same. -/
theorem understand_inputText_and_inputText_injective
    {sheet : Sheet} (settled : sheet.rules.Settled) {input : String} {contents : Contents}
    (understood : sheet.understand input = .ok contents) :
    sheet.understand contents.inputText = .ok contents ∧
      (∀ value, contents = .number value →
        Contents.number? contents.inputText = some value) ∧
      (∀ written, contents = .text written →
        contents.inputText = written ∧ Contents.number? written = none ∧
          ∀ expression, written.toList ≠ '=' :: expression) ∧
      (∀ formula, contents = .formula formula →
        contents.inputText = "=" ++ formula.text ∧
          Contents.number? contents.inputText = none ∧
            Formula.ofText sheet.rules.forCells formula.text = .ok formula) ∧
      ∀ otherInput other, sheet.understand otherInput = .ok other →
        (other.inputText = contents.inputText ↔ other = contents) := by
  have proper := Contents.proper_of_ofInput (understand_eq_ok.1 understood)
  refine ⟨understand_inputText settled understood, ?_, ?_, ?_, ?_⟩
  · intro value same
    have finite := proper.finite value same
    rw [same]
    exact Contents.number?_plainText finite
  · intro written same
    obtain ⟨unmarked, noNumber⟩ := proper.plain written same
    rw [same]
    exact ⟨rfl, noNumber, unmarked⟩
  · intro formula same
    rw [same] at understood ⊢
    exact ⟨rfl, Contents.number?_inputText_formula formula,
      ofText_text_of_understand settled understood⟩
  · intro otherInput other otherUnderstood
    exact inputText_eq_iff_eq settled understood otherUnderstood

end

/-- A zero with its sign, a text that is no formula because of the blank before it, and a
formula with a name in lower case where upper case is canonical. -/
theorem understand_inputText_and_inputText_injective_of_each_kind :
    let sheet := Sheet.empty Normalization.upper.rules "default"
    let zero : Contents := .number (Number.signed true 0)
    let note : Contents := .text " =1"
    let sum : Contents := .formula ⟨[.name "A1", .operator .add, .number 2.5]⟩
    sheet.rules.Settled ∧
      (sheet.understand " -0 " = .ok zero ∧ zero ≠ .number 0 ∧
        zero.inputText = "-0" ∧ sheet.understand zero.inputText = .ok zero) ∧
      (sheet.understand " =1" = .ok note ∧ sheet.understand note.inputText = .ok note ∧
        (zero.inputText = note.inputText ↔ zero = note)) ∧
      sheet.understand "= a1 + 2.50" = .ok sum ∧ sum.inputText = "=A1+2.5" ∧
        sheet.understand sum.inputText = .ok sum := by
  intro sheet zero note sum
  have settled : sheet.rules.Settled := Normalization.settled .upper
  have number : sheet.understand " -0 " = .ok zero := by decide +kernel
  have text : sheet.understand " =1" = .ok note := by decide +kernel
  have formula : sheet.understand "= a1 + 2.50" = .ok sum := by decide +kernel
  obtain ⟨numberAgain, _⟩ := understand_inputText_and_inputText_injective settled number
  obtain ⟨textAgain, _, _, _, injective⟩ :=
    understand_inputText_and_inputText_injective settled text
  obtain ⟨formulaAgain, _⟩ := understand_inputText_and_inputText_injective settled formula
  exact ⟨settled, ⟨number, by decide +kernel, by decide +kernel, numberAgain⟩,
    ⟨text, textAgain, injective " -0 " zero number⟩, formula, by decide +kernel, formulaAgain⟩

end Sheet

end Reckon
