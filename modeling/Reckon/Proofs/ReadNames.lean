import Reckon.Proofs.ErrorPropagation
import Reckon.Text.Casing

/-!
What an evaluation reads. The names that a formula lists are all that it asks for, and it has
a number only where all of them have one; the name that it reports as undefined is the first
one in it without a number.
-/

namespace Reckon

namespace Formula

variable {formula : Formula} {lookup : String → Option Float}

/-- All names before the one that is reported have numbers, so that it does not occur there. -/
theorem first_undefined_of_evaluate_eq_error {missing : String}
    (failed : formula.evaluate lookup = .error (.undefinedVariable missing)) :
    ∃ before after, formula.tokens = before ++ .name missing :: after ∧
      Token.name missing ∉ before ∧
        ∀ name, Token.name name ∈ before → (lookup name).isSome = true := by
  obtain ⟨before, after, split, undefined, defined⟩ :=
    Stacks.undefined_of_foldlM_eq_error (map_eq_error.1 failed)
  refine ⟨before, after, split, fun earlier => defined missing earlier undefined, ?_⟩
  exact fun name listed => Option.isSome_iff_ne_none.2 (defined name listed)

/-- Values of names that are alike on the names of a formula give it the same value or error.
A formula has a number only where each of its names has one, and what it reports as undefined
is its first name without a number. -/
theorem evaluate_reads_names (formula : Formula) (lookup : String → Option Float) :
    (∀ other : String → Option Float, (∀ name ∈ formula.names, lookup name = other name) →
      formula.evaluate lookup = formula.evaluate other) ∧
    (∀ value, formula.evaluate lookup = .ok value →
      ∀ name ∈ formula.names, (lookup name).isSome = true) ∧
    ∀ missing, formula.evaluate lookup = .error (.undefinedVariable missing) →
      missing ∈ formula.names ∧ lookup missing = none ∧
        ∃ before after, formula.tokens = before ++ .name missing :: after ∧
          Token.name missing ∉ before ∧
            ∀ name, Token.name name ∈ before → (lookup name).isSome = true := by
  refine ⟨fun other agree => evaluate_congr agree, ?_, ?_⟩
  · intro value computed name mentioned
    exact Option.isSome_iff_ne_none.2 (defined_of_evaluate_eq_ok computed name mentioned)
  · intro missing failed
    obtain ⟨mentioned, undefined⟩ := undefined_of_evaluate_eq_error failed
    exact ⟨mentioned, undefined, first_undefined_of_evaluate_eq_error failed⟩

/-- Of two names without numbers the first is reported, also where a name that is not in the
formula has a number. -/
theorem evaluate_reads_names_of_two_undefined :
    let formula : Formula :=
      ⟨[.name "X", .operator .div, .leftParen, .name "Y", .operator .sub, .name "Z",
        .rightParen]⟩
    let lookup : String → Option Float := fun name => if name = "X" then some 2 else none
    let other : String → Option Float :=
      fun name => if name = "X" ∨ name = "W" then some 2 else none
    ofText ⟨Text.upper, fun _ => true⟩ "x/(y - z)" = .ok formula ∧
      formula.evaluate lookup = .error (.undefinedVariable "Y") ∧
      formula.evaluate lookup = formula.evaluate other ∧
      "Y" ∈ formula.names ∧ lookup "Y" = none := by
  intro formula lookup other
  have read : ofText ⟨Text.upper, fun _ => true⟩ "x/(y - z)" = .ok formula := by
    rw [← toOption_eq_some]
    decide +kernel
  have failed : formula.evaluate lookup = .error (.undefinedVariable "Y") := by decide +kernel
  have agree : ∀ name ∈ formula.names, lookup name = other name := by
    intro name mentioned
    have among : name = "X" ∨ name = "Y" ∨ name = "Z" := by
      simpa [formula, mem_names] using mentioned
    rcases among with rfl | rfl | rfl
    · rfl
    · rfl
    · rfl
  obtain ⟨settled, _, reported⟩ := evaluate_reads_names formula lookup
  obtain ⟨mentioned, undefined, _⟩ := reported "Y" failed
  exact ⟨read, failed, settled other agree, mentioned, undefined⟩

end Formula

end Reckon
