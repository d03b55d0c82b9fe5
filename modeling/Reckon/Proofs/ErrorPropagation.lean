import Reckon.Proofs.Reached

/-!
Errors and the cells that read them. A formula that is evaluated to a number has found a
number under each of its names; so, after any edits, every cell that reads a cell without
a number, directly or through others, holds an error. An undefined name is only reported
where it is read, and where all names have numbers only a division by zero can fail.
-/

namespace Reckon

open Relation

/-! ## How an evaluation fails -/

namespace Stacks

variable {lookup : String → Option Float} {state final : Stacks} {token : Token}
  {tokens : List Token}

private theorem resolveMultiplicative_eq_error {cause : EvalError}
    (failed : state.resolveMultiplicative = .error cause) : cause = .divisionByZero := by
  unfold resolveMultiplicative at failed
  split at failed
  · cases failed
  · dsimp only at failed
    split at failed
    · injection failed with same
      exact same.symm
    · cases failed
  · cases failed

/-- A token fails by a division by zero, or it is a name without a number. -/
theorem step_eq_error {cause : EvalError} (failed : state.step lookup token = .error cause) :
    cause = .divisionByZero ∨
      ∃ name, token = .name name ∧ lookup name = none ∧ cause = .undefinedVariable name := by
  cases token with
  | leftParen => cases failed
  | rightParen => exact Or.inl (resolveMultiplicative_eq_error failed)
  | operator op =>
      simp only [step] at failed
      split at failed
      · cases failed
      · cases failed
  | number value => exact Or.inl (resolveMultiplicative_eq_error failed)
  | name text =>
      simp only [step] at failed
      split at failed
      · exact Or.inl (resolveMultiplicative_eq_error failed)
      · next undefined =>
          injection failed with same
          exact Or.inr ⟨text, rfl, undefined, same.symm⟩

private theorem defined_of_step_eq_ok {name : String}
    (read : state.step lookup (.name name) = .ok final) : lookup name ≠ none := by
  intro undefined
  simp [step, undefined] at read

private theorem defined_of_foldlM_eq_ok (read : tokens.foldlM (step lookup) state = .ok final) :
    ∀ name, Token.name name ∈ tokens → lookup name ≠ none := by
  induction tokens generalizing state with
  | nil => simp
  | cons token rest inductionHypothesis =>
      obtain ⟨next, readFirst, readRest⟩ := bind_eq_ok.1 read
      intro name listed
      rcases List.mem_cons.1 listed with same | listedRest
      · subst same
        exact defined_of_step_eq_ok readFirst
      · exact inductionHypothesis readRest name listedRest

/-- The name that is reported as undefined is the first one without a number. -/
theorem undefined_of_foldlM_eq_error {missing : String}
    (failed : tokens.foldlM (step lookup) state = .error (.undefinedVariable missing)) :
    ∃ before after, tokens = before ++ .name missing :: after ∧ lookup missing = none ∧
      ∀ name, Token.name name ∈ before → lookup name ≠ none := by
  induction tokens generalizing state with
  | nil => cases failed
  | cons token rest inductionHypothesis =>
      rw [List.foldlM_cons] at failed
      cases readFirst : state.step lookup token with
      | error cause =>
          rw [readFirst] at failed
          injection failed with sameCause
          subst sameCause
          rcases step_eq_error readFirst with divided | ⟨name, isName, undefined, same⟩
          · cases divided
          · injection same with sameName
            subst sameName isName
            exact ⟨[], rest, rfl, undefined, by simp⟩
      | ok next =>
          rw [readFirst] at failed
          obtain ⟨before, after, split, undefined, defined⟩ := inductionHypothesis failed
          refine ⟨token :: before, after, by rw [split]; rfl, undefined, ?_⟩
          intro name listed
          rcases List.mem_cons.1 listed with same | listedBefore
          · subst same
            exact defined_of_step_eq_ok readFirst
          · exact defined name listedBefore

end Stacks

namespace Formula

variable {formula : Formula} {lookup : String → Option Float}

theorem defined_of_evaluate_eq_ok {value : Float}
    (computed : formula.evaluate lookup = .ok value) :
    ∀ name ∈ formula.names, lookup name ≠ none := by
  intro name mentioned
  obtain ⟨final, read, _⟩ := map_eq_ok.1 computed
  exact Stacks.defined_of_foldlM_eq_ok read name (mem_names.1 mentioned)

theorem undefined_of_evaluate_eq_error {missing : String}
    (failed : formula.evaluate lookup = .error (.undefinedVariable missing)) :
    missing ∈ formula.names ∧ lookup missing = none := by
  have stopped :
      formula.tokens.foldlM (Stacks.step lookup) .empty = .error (.undefinedVariable missing) :=
    map_eq_error.1 failed
  obtain ⟨before, after, split, undefined, _⟩ := Stacks.undefined_of_foldlM_eq_error stopped
  refine ⟨mem_names.2 ?_, undefined⟩
  rw [split]
  exact List.mem_append_right before List.mem_cons_self

end Formula

/-! ## Cells that hold no number -/

namespace Sheet

/-- No number is stored under a name: there is no cell, or it holds a text or an error. -/
inductive LacksNumber (sheet : Sheet) (name : String) : Prop where
  | absent (missing : sheet.storedValue? name = none)
  | text {written : String} (held : sheet.storedValue? name = some (.text written))
  | error {cause : EvalError} (held : sheet.storedValue? name = some (.error cause))

section

variable {sheet : Sheet} {name : String}

private theorem numberIn_eq_some_iff {number : Float} :
    sheet.numberIn name = some number ↔ sheet.storedValue? name = some (.number number) := by
  rw [numberIn_eq, Option.bind_eq_some_iff]
  constructor
  · intro found
    obtain ⟨value, stored, isNumber⟩ := found
    cases value with
    | number computed =>
        injection isNumber with same
        rw [stored, same]
    | text written => cases isNumber
    | error cause => cases isNumber
  · exact fun stored => ⟨_, stored, rfl⟩

private theorem numberIn_eq_none_iff : sheet.numberIn name = none ↔ sheet.LacksNumber name := by
  rw [numberIn_eq]
  constructor
  · intro noNumber
    cases stored : sheet.storedValue? name with
    | none => exact .absent stored
    | some value =>
        rw [stored] at noNumber
        cases value with
        | number computed => cases noNumber
        | text written => exact .text stored
        | error cause => exact .error stored
  · intro lacks
    cases lacks with
    | absent missing => rw [missing]; rfl
    | text held => rw [held]; rfl
    | error held => rw [held]; rfl

end

namespace Coherent

variable {sheet : Sheet} {name : String} {formula : Formula}

private theorem storedValue?_eq_value
    (coherent : sheet.Coherent) {contents : Contents}
    (stored : sheet.storedContents? name = some contents) :
    sheet.storedValue? name = some (contents.value sheet.numberIn) := by
  rw [storedValue?_eq_of_consistent (coherent.consistent name), stored, Option.map_some]

theorem formula_of_storedValue?_error
    (coherent : sheet.Coherent) {cause : EvalError}
    (held : sheet.storedValue? name = some (.error cause)) :
    ∃ formula, sheet.storedContents? name = some (.formula formula) ∧
      formula.evaluate sheet.numberIn = .error cause := by
  rw [storedValue?_eq_of_consistent (coherent.consistent name)] at held
  obtain ⟨contents, stored, value⟩ := Option.map_eq_some_iff.1 held
  cases contents with
  | number entered => cases value
  | text written => cases value
  | formula parsed =>
      refine ⟨parsed, stored, ?_⟩
      rw [Contents.value] at value
      split at value
      · cases value
      · next found failed =>
          injection value with same
          rw [failed, same]

theorem error_of_mentions
    (coherent : sheet.Coherent) {target source : String}
    (mentions : sheet.Mentions target source) (lacks : sheet.LacksNumber source) :
    ∃ cause, sheet.storedValue? target = some (.error cause) := by
  obtain ⟨formula, stored, mentioned⟩ := mentions
  have held := coherent.storedValue?_eq_value stored
  cases evaluated : formula.evaluate sheet.numberIn with
  | ok number =>
      have defined := Formula.defined_of_evaluate_eq_ok evaluated source mentioned
      exact absurd (numberIn_eq_none_iff.2 lacks) defined
  | error cause =>
      rw [Contents.value, evaluated] at held
      exact ⟨cause, held⟩

/-- By induction along the chain from its far end: each cell on it holds an error, and
lacks a number for the next one. -/
theorem error_of_transGen_mentions
    (coherent : sheet.Coherent) {target source : String}
    (chain : TransGen sheet.Mentions target source) (lacks : sheet.LacksNumber source) :
    ∃ cause, sheet.storedValue? target = some (.error cause) := by
  induction chain using TransGen.head_induction_on with
  | single mentions => exact coherent.error_of_mentions mentions lacks
  | head mentions _ inductionHypothesis =>
      obtain ⟨cause, held⟩ := inductionHypothesis
      exact coherent.error_of_mentions mentions (.error held)

theorem number_or_divisionByZero
    (coherent : sheet.Coherent) {name : String} {formula : Formula}
    (stored : sheet.storedContents? name = some (.formula formula))
    (numbers : ∀ source ∈ formula.names,
      ∃ number, sheet.storedValue? source = some (.number number)) :
    (∃ number, sheet.storedValue? name = some (.number number)) ∨
      sheet.storedValue? name = some (.error .divisionByZero) := by
  have held := coherent.storedValue?_eq_value stored
  rw [Contents.value] at held
  cases evaluated : formula.evaluate sheet.numberIn with
  | ok number =>
      rw [evaluated] at held
      exact Or.inl ⟨number, held⟩
  | error cause =>
      rw [evaluated] at held
      cases cause with
      | divisionByZero => exact Or.inr held
      | undefinedVariable missing =>
          obtain ⟨mentioned, undefined⟩ := Formula.undefined_of_evaluate_eq_error evaluated
          obtain ⟨number, found⟩ := numbers missing mentioned
          rw [numberIn_eq_some_iff.2 found] at undefined
          cases undefined

end Coherent

/-- After any edits, a cell that reads a name without a number, directly or through other
formulas, holds an error. A name is reported as undefined only in a cell whose formula
mentions it, and only while it has no number; and a formula all of whose names have
numbers has a number itself or divides by zero. -/
theorem Reached.errors_propagate
    {rules : NameRules} {version : String} {sheet : Sheet}
    (reached : Reached rules version sheet) :
    (∀ target source, TransGen sheet.Mentions target source → sheet.LacksNumber source →
      ∃ cause, sheet.storedValue? target = some (.error cause)) ∧
    (∀ name missing, sheet.storedValue? name = some (.error (.undefinedVariable missing)) →
      sheet.Mentions name missing ∧ sheet.LacksNumber missing) ∧
    (∀ name formula, sheet.storedContents? name = some (.formula formula) →
      (∀ source ∈ formula.names,
        ∃ number, sheet.storedValue? source = some (.number number)) →
      (∃ number, sheet.storedValue? name = some (.number number)) ∨
        sheet.storedValue? name = some (.error .divisionByZero)) := by
  have coherent := reached.coherent
  refine ⟨?_, ?_, ?_⟩
  · intro target source chain lacks
    exact coherent.error_of_transGen_mentions chain lacks
  · intro name missing held
    obtain ⟨formula, stored, failed⟩ := coherent.formula_of_storedValue?_error held
    obtain ⟨mentioned, undefined⟩ := Formula.undefined_of_evaluate_eq_error failed
    exact ⟨⟨formula, stored, mentioned⟩, numberIn_eq_none_iff.1 undefined⟩
  · intro name formula stored numbers
    exact coherent.number_or_divisionByZero stored numbers

/-- A quotient fails, and so does all that reads it through two other cells, but not the
cell that reads only numbers. -/
theorem Reached.errors_propagate_along_three_cells :
    let sheet := afterEdits .free "default"
      [("D1", some "=C1*2"), ("C1", some "=B1+A1"), ("A1", some "6"), ("B1", some "=A1/0"),
        ("E1", some "=A1-1")]
    Reached .free "default" sheet ∧
      (∃ cause, sheet.storedValue? "D1" = some (.error cause)) ∧
      sheet.storedValue? "D1" = some (.error (.undefinedVariable "C1")) ∧
      sheet.Mentions "D1" "C1" ∧ sheet.LacksNumber "C1" ∧
      ((∃ number, sheet.storedValue? "E1" = some (.number number)) ∨
        sheet.storedValue? "E1" = some (.error .divisionByZero)) := by
  intro sheet
  have reached : Reached .free "default" sheet := reached_afterEdits .free "default" _
  obtain ⟨downstream, reported, numeric⟩ := reached.errors_propagate
  have fails : sheet.storedValue? "B1" = some (.error .divisionByZero) := by decide +kernel
  have first : sheet.storedContents? "D1" =
      some (.formula ⟨[.name "C1", .operator .mul, .number 2]⟩) := by decide +kernel
  have second : sheet.storedContents? "C1" =
      some (.formula ⟨[.name "B1", .operator .add, .name "A1"]⟩) := by decide +kernel
  have chain : TransGen sheet.Mentions "D1" "B1" :=
    .tail (.single ⟨_, first, by decide⟩) ⟨_, second, by decide⟩
  have undefined : sheet.storedValue? "D1" = some (.error (.undefinedVariable "C1")) := by
    decide +kernel
  have other : sheet.storedContents? "E1" =
      some (.formula ⟨[.name "A1", .operator .sub, .number 1]⟩) := by decide +kernel
  have read : ∀ source ∈ (Formula.mk [.name "A1", .operator .sub, .number 1]).names,
      ∃ number, sheet.storedValue? source = some (.number number) := by
    intro source mentioned
    obtain rfl : source = "A1" := by simpa [Formula.mem_names] using mentioned
    exact ⟨6, by decide +kernel⟩
  exact ⟨reached, downstream "D1" "B1" chain (.error fails), undefined,
    (reported "D1" "C1" undefined).1, (reported "D1" "C1" undefined).2,
    numeric "E1" _ other read⟩

end Sheet

end Reckon
