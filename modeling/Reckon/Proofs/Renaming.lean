import Reckon.Proofs.FormulaText

/-!
Rules for names rename the names of a formula and do nothing else. What a text is under
some rules is what it is without any, with the canonical names in place of the written ones,
although different names may become one, and each token is checked next to one that has
already been renamed.
-/

namespace Reckon

/-! ## Texts without repetitions -/

private theorem eraseDups_concat {α : Type} [BEq α] [LawfulBEq α] (items : List α) (item : α)
    [Decidable (item ∈ items)] :
    (items ++ [item]).eraseDups =
      if item ∈ items then items.eraseDups else items.eraseDups ++ [item] := by
  rw [List.eraseDups_append]
  by_cases listed : item ∈ items
  · simp [List.removeAll, listed]
  · simp [List.removeAll, listed, List.eraseDups_cons]

/-- Repetitions that are erased early are none that are missing later. -/
theorem eraseDups_map_eraseDups (change : String → String) (names : List String) :
    (names.eraseDups.map change).eraseDups = (names.map change).eraseDups := by
  induction names using List.reverseRecOn with
  | nil => rfl
  | append_singleton names name inductionHypothesis =>
      rw [eraseDups_concat, List.map_append, List.map_singleton, eraseDups_concat]
      by_cases listed : name ∈ names
      · rw [if_pos listed, if_pos (List.mem_map_of_mem listed), inductionHypothesis]
      · have sameImages : change name ∈ names.eraseDups.map change ↔
            change name ∈ names.map change := by
          simp only [List.mem_map, List.mem_eraseDups]
        rw [if_neg listed, List.map_append, List.map_singleton, eraseDups_concat,
          inductionHypothesis]
        simp only [sameImages]

/-! ## Renamed formulas -/

def EvalError.renamed (rules : NameRules) : EvalError → EvalError
  | .undefinedVariable name => .undefinedVariable (rules.canonical name)
  | .divisionByZero => .divisionByZero

def Formula.renamed (rules : NameRules) (formula : Formula) : Formula :=
  ⟨formula.tokens.map (Token.renamed rules)⟩

namespace Token

private theorem renamed_free (token : Token) : token.renamed .free = token := by
  cases token <;> rfl

private theorem name?_renamed (rules : NameRules) (token : Token) :
    (token.renamed rules).name? = token.name?.map rules.canonical := by
  cases token <;> rfl

end Token

/-! ## Evaluation under other names -/

namespace Stacks

variable (rules : NameRules) (lookup : String → Option Float)

/-- Only a division by zero fails here, and it has no name. -/
theorem mapError_resolveMultiplicative (state : Stacks) :
    state.resolveMultiplicative.mapError (EvalError.renamed rules) =
      state.resolveMultiplicative := by
  unfold resolveMultiplicative
  split
  · rfl
  · dsimp only
    split
    · rfl
    · rfl
  · rfl

private theorem step_renamed (state : Stacks) (token : Token) :
    state.step lookup (token.renamed rules) =
      (state.step (fun name => lookup (rules.canonical name)) token).mapError
        (EvalError.renamed rules) := by
  cases token with
  | leftParen => rfl
  | rightParen => exact (mapError_resolveMultiplicative rules _).symm
  | operator op => cases op <;> rfl
  | number value => exact (mapError_resolveMultiplicative rules _).symm
  | name text =>
      simp only [Token.renamed, step]
      cases lookup (rules.canonical text) with
      | none => rfl
      | some value => exact (mapError_resolveMultiplicative rules _).symm

private theorem foldlM_step_renamed (tokens : List Token) (state : Stacks) :
    (tokens.map (Token.renamed rules)).foldlM (step lookup) state =
      (tokens.foldlM (step fun name => lookup (rules.canonical name)) state).mapError
        (EvalError.renamed rules) := by
  induction tokens generalizing state with
  | nil => rfl
  | cons token later inductionHypothesis =>
      rw [List.map_cons, List.foldlM_cons, List.foldlM_cons, step_renamed]
      cases state.step (fun name => lookup (rules.canonical name)) token with
      | error cause => rfl
      | ok next => exact inductionHypothesis next

end Stacks

namespace Formula

theorem evaluate_renamed (rules : NameRules) (formula : Formula)
    (lookup : String → Option Float) :
    (formula.renamed rules).evaluate lookup =
      (formula.evaluate fun name => lookup (rules.canonical name)).mapError
        (EvalError.renamed rules) := by
  unfold evaluate evaluateTokens
  rw [renamed, Stacks.foldlM_step_renamed]
  cases formula.tokens.foldlM (Stacks.step fun name => lookup (rules.canonical name))
    Stacks.empty with
  | error cause => rfl
  | ok state => rfl

theorem names_renamed (rules : NameRules) (formula : Formula) :
    (formula.renamed rules).names = (formula.names.map rules.canonical).eraseDups := by
  have renamedNames : (formula.tokens.map (Token.renamed rules)).filterMap Token.name? =
      (formula.tokens.filterMap Token.name?).map rules.canonical := by
    rw [List.filterMap_map, List.map_filterMap]
    exact List.filterMap_congr fun token _ => Token.name?_renamed rules token
  rw [names, renamed, renamedNames, names, eraseDups_map_eraseDups]

theorem ofText_free_eq_ok_iff {text : String} {formula : Formula} :
    ofText .free text = .ok formula ↔
      Token.scan text = .ok formula.tokens ∧ Derives .expression formula.tokens := by
  rw [ofText_eq_ok_iff_derives]
  constructor
  · rintro ⟨tokens, scanned, derives, _, same⟩
    rw [List.map_congr_left fun token _ => Token.renamed_free token, List.map_id'] at same
    rw [same]
    exact ⟨scanned, derives⟩
  · rintro ⟨scanned, derives⟩
    refine ⟨formula.tokens, scanned, derives, fun written listed => ?_, ?_⟩
    · exact ⟨Token.readable_of_scan scanned _ listed, rfl⟩
    · rw [List.map_congr_left fun token _ => Token.renamed_free token, List.map_id']

/-- A text is a formula under rules for names exactly if it is one without any rules and
the rules accept the canonical forms of its names; the formula is then the one without
rules, renamed. It has the canonical names in their first occurrences, and evaluates as the
one without rules does where each name is looked up by its canonical form, apart from the
name in an error, which is the canonical one. -/
theorem ofText_eq_ok_iff_renamed (rules : NameRules) (text : String) :
    (∀ formula, ofText rules text = .ok formula ↔
      ∃ plain, ofText .free text = .ok plain ∧
        (∀ name ∈ plain.names, isName (rules.canonical name) = true ∧
          rules.accepts (rules.canonical name) = true) ∧
        formula = plain.renamed rules) ∧
    ∀ plain : Formula,
      (plain.renamed rules).names = (plain.names.map rules.canonical).eraseDups ∧
      ∀ lookup, (plain.renamed rules).evaluate lookup =
        (plain.evaluate fun name => lookup (rules.canonical name)).mapError
          (EvalError.renamed rules) := by
  refine ⟨fun formula => ?_, fun plain => ⟨names_renamed rules plain, evaluate_renamed rules plain⟩⟩
  rw [ofText_eq_ok_iff_derives]
  constructor
  · rintro ⟨tokens, scanned, derives, allowed, same⟩
    refine ⟨⟨tokens⟩, ofText_free_eq_ok_iff.2 ⟨scanned, derives⟩, fun name mentioned => ?_, ?_⟩
    · exact allowed name (mem_names.1 mentioned)
    · cases formula
      exact congrArg Formula.mk same
  · rintro ⟨plain, read, allowed, rfl⟩
    obtain ⟨scanned, derives⟩ := ofText_free_eq_ok_iff.1 read
    refine ⟨plain.tokens, scanned, derives, fun written listed => ?_, rfl⟩
    exact allowed written (mem_names.2 listed)

end Formula

end Reckon
