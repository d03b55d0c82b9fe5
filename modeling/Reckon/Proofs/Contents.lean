import Reckon.Cell

/-!
Contents and their values. A formula reads no other names than those it mentions,
and the contents that an entered text gives are of the kind that the text shows:
a finite number, a formula with accepted names, or a text that is neither.
-/

namespace Reckon

theorem bind_eq_ok
    {ε α β : Type} {first : Except ε α} {next : α → Except ε β} {found : β} :
    (first >>= next) = .ok found ↔ ∃ middle, first = .ok middle ∧ next middle = .ok found := by
  cases first with
  | error cause => simp [bind, Except.bind]
  | ok value => simp [bind, Except.bind]

theorem map_eq_ok
    {ε α β : Type} {result : Except ε α} {change : α → β} {found : β} :
    result.map change = .ok found ↔ ∃ value, result = .ok value ∧ change value = found := by
  cases result with
  | error cause => simp [Except.map]
  | ok value => simp [Except.map]

theorem map_eq_error
    {ε α β : Type} {result : Except ε α} {change : α → β} {cause : ε} :
    result.map change = .error cause ↔ result = .error cause := by
  cases result with
  | error other => simp [Except.map]
  | ok value => simp [Except.map]

theorem toOption_eq_some
    {ε α : Type} {result : Except ε α} {found : α} :
    result.toOption = some found ↔ result = .ok found := by
  cases result with
  | error cause => simp [Except.toOption]
  | ok value => simp [Except.toOption]

/-! ## What a formula reads -/

namespace Stacks

private theorem step_congr
    {first second : String → Option Float} {token : Token}
    (agree : ∀ name, token.name? = some name → first name = second name)
    (state : Stacks) :
    state.step first token = state.step second token := by
  cases token with
  | name text => simp only [step, agree text rfl]
  | leftParen => rfl
  | rightParen => rfl
  | operator op => rfl
  | number value => rfl

private theorem foldlM_step_congr
    {first second : String → Option Float} {tokens : List Token}
    (agree : ∀ name ∈ tokens.filterMap Token.name?, first name = second name)
    (state : Stacks) :
    tokens.foldlM (step first) state = tokens.foldlM (step second) state := by
  induction tokens generalizing state with
  | nil => rfl
  | cons token rest inductionHypothesis =>
      have same : state.step first token = state.step second token :=
        step_congr (fun name holds =>
          agree name (List.mem_filterMap.2 ⟨token, List.mem_cons_self, holds⟩)) state
      have agreeRest : ∀ name ∈ rest.filterMap Token.name?, first name = second name := by
        intro name mentioned
        obtain ⟨other, listed, holds⟩ := List.mem_filterMap.1 mentioned
        exact agree name (List.mem_filterMap.2 ⟨other, List.mem_cons_of_mem _ listed, holds⟩)
      rw [List.foldlM_cons, List.foldlM_cons, same]
      exact bind_congr fun next => inductionHypothesis agreeRest next

end Stacks

namespace Formula

theorem mem_names {formula : Formula} {name : String} :
    name ∈ formula.names ↔ Token.name name ∈ formula.tokens := by
  rw [names, List.mem_eraseDups, List.mem_filterMap]
  constructor
  · intro found
    obtain ⟨token, listed, holds⟩ := found
    cases token with
    | name text =>
        obtain rfl : text = name := by simpa [Token.name?] using holds
        exact listed
    | _ => simp [Token.name?] at holds
  · intro listed
    exact ⟨.name name, listed, rfl⟩

/-- The value of a formula is settled by the values of the names it mentions. -/
theorem evaluate_congr
    {formula : Formula} {first second : String → Option Float}
    (agree : ∀ name ∈ formula.names, first name = second name) :
    formula.evaluate first = formula.evaluate second := by
  unfold evaluate evaluateTokens
  rw [Stacks.foldlM_step_congr fun name mentioned => agree name ?_]
  rwa [names, List.mem_eraseDups]

end Formula

theorem Contents.value_congr
    {contents : Contents} {first second : String → Option Float}
    (agree : ∀ name ∈ contents.names, first name = second name) :
    contents.value first = contents.value second := by
  cases contents with
  | formula parsed => simp only [value, Formula.evaluate_congr agree]
  | number entered => rfl
  | text written => rfl

theorem Contents.names_eq_nil_of_isEmpty
    {contents : Contents} (nothing : contents.isEmpty = true) :
    contents.names = [] := by
  cases contents with
  | formula parsed => cases nothing
  | number entered => rfl
  | text written => rfl

/-! ## The names in a formula -/

def Token.Allowed (rules : NameRules) (token : Token) : Prop :=
  ∀ name, token = .name name → isName name = true ∧ rules.accepts name = true

private theorem Token.allowed_of_canonical
    {rules : NameRules} {position : Nat} {written token : Token}
    (found : written.canonical rules position = .ok token) :
    token.Allowed rules := by
  intro name same
  subst same
  cases written with
  | name text =>
      simp only [canonical] at found
      split at found
      · next accepted =>
          injection found with equality
          injection equality with sameName
          subst sameName
          exact (Bool.and_eq_true_iff.1 accepted)
      · cases found
  | _ => cases found

namespace Formula

private theorem Checked.push_eq_ok
    {rules : NameRules} {checked next : Checked} {token : Token}
    (pushed : checked.push rules token = .ok next) :
    ∃ canonical, canonical.Allowed rules ∧
      next.accepted = canonical :: checked.accepted := by
  simp only [push] at pushed
  split at pushed
  · cases pushed
  · split at pushed
    · cases pushed
    · cases found : token.canonical rules (checked.count + 1) with
      | error error => simp [found, Except.map] at pushed
      | ok canonical =>
          rw [found] at pushed
          injection pushed with equality
          subst equality
          exact ⟨canonical, Token.allowed_of_canonical found, rfl⟩

private theorem Checked.allowed_of_foldlM
    {rules : NameRules} {tokens : List Token} {checked final : Checked}
    (allowed : ∀ token ∈ checked.accepted, token.Allowed rules)
    (pushed : tokens.foldlM (push rules) checked = .ok final) :
    ∀ token ∈ final.accepted, token.Allowed rules := by
  induction tokens generalizing checked with
  | nil =>
      injection pushed with equality
      subst equality
      exact allowed
  | cons token rest inductionHypothesis =>
      rw [List.foldlM_cons] at pushed
      cases step : checked.push rules token with
      | error error => simp [step, bind, Except.bind] at pushed
      | ok next =>
          rw [step] at pushed
          obtain ⟨canonical, allowedCanonical, accepted⟩ := push_eq_ok step
          refine inductionHypothesis ?_ pushed
          rw [accepted]
          exact List.forall_mem_cons.2 ⟨allowedCanonical, allowed⟩

private theorem Checked.tokens_of_finish
    {checked : Checked} {formula : Formula}
    (finished : checked.finish = .ok formula) :
    formula.tokens = checked.accepted.reverse := by
  simp only [finish] at finished
  split at finished
  · cases finished
  · split at finished
    · cases finished
    · split at finished
      · cases finished
      · injection finished with equality
        rw [← equality]

/-- Every name in a formula is well-formed and accepted by the rules that the
formula was read with. -/
theorem allowed_of_ofText
    {rules : NameRules} {text : String} {formula : Formula}
    (read : ofText rules text = .ok formula)
    {name : String} (mentioned : name ∈ formula.names) :
    isName name = true ∧ rules.accepts name = true := by
  unfold ofText at read
  cases scanned : Token.scan text with
  | error error => simp [scanned, Except.bind] at read
  | ok tokens =>
      simp only [scanned, Except.bind, ofTokens] at read
      split at read
      · cases read
      · cases checked : tokens.foldlM (Checked.push rules) Checked.start with
        | error error => simp [checked] at read
        | ok final =>
            rw [checked] at read
            have allowed := Checked.allowed_of_foldlM (by simp [Checked.start]) checked
            have listed := mem_names.1 mentioned
            rw [Checked.tokens_of_finish read, List.mem_reverse] at listed
            exact allowed _ listed name rfl

end Formula

theorem NameRules.accepts_forCells {rules : NameRules} {name : String} :
    rules.forCells.accepts name = true ↔
      isCellName name = true ∧ rules.accepts name = true := by
  simp [forCells]

/-! ## What an entered text gives -/

namespace Contents

variable {rules : NameRules} {input : String}

theorem ofInput_of_number
    {value : Float} (reads : number? input = some value) :
    ofInput rules input = .ok (.number value) := by
  simp only [ofInput, reads]

theorem ofInput_of_formula
    {expression : List Char} (noNumber : number? input = none)
    (marked : input.toList = '=' :: expression) :
    ofInput rules input =
      (Formula.ofText rules (String.ofList expression)).map .formula := by
  simp only [ofInput, noNumber, marked]

theorem ofInput_of_text
    (noNumber : number? input = none)
    (unmarked : ∀ expression, input.toList ≠ '=' :: expression) :
    ofInput rules input = .ok (.text input) := by
  unfold ofInput
  rw [noNumber]
  dsimp only
  split
  · next expression marked => exact absurd marked (unmarked expression)
  · rfl

/-- An entered text gives the number that it reads as, the formula after its equals sign,
or the text itself. -/
theorem ofInput_eq_ok_cases
    {contents : Contents} (given : ofInput rules input = .ok contents) :
    (∃ value, number? input = some value ∧ contents = .number value) ∨
      (∃ expression formula, number? input = none ∧ input.toList = '=' :: expression ∧
        Formula.ofText rules (String.ofList expression) = .ok formula ∧
          contents = .formula formula) ∨
      number? input = none ∧ (∀ expression, input.toList ≠ '=' :: expression) ∧
        contents = .text input := by
  cases reads : number? input with
  | some value =>
      rw [ofInput_of_number reads] at given
      injection given with same
      exact Or.inl ⟨value, rfl, same.symm⟩
  | none =>
      by_cases marked : ∃ expression, input.toList = '=' :: expression
      · obtain ⟨expression, marked⟩ := marked
        rw [ofInput_of_formula reads marked] at given
        obtain ⟨formula, parsed, same⟩ := map_eq_ok.1 given
        exact Or.inr (Or.inl ⟨expression, formula, rfl, marked, parsed, same.symm⟩)
      · have unmarked : ∀ expression, input.toList ≠ '=' :: expression :=
          fun expression same => marked ⟨expression, same⟩
        rw [ofInput_of_text reads unmarked] at given
        injection given with same
        exact Or.inr (Or.inr ⟨rfl, unmarked, same.symm⟩)

/-- Contents of a cell: a number is finite, a text neither begins with an equals
sign nor reads as a number, and all names in a formula name cells and are
accepted. -/
structure Proper (rules : NameRules) (contents : Contents) : Prop where
  finite : ∀ value, contents = .number value →
    Number.magnitude value < Number.infinite
  plain : ∀ written, contents = .text written →
    (∀ expression, written.toList ≠ '=' :: expression) ∧ number? written = none
  named : ∀ name ∈ contents.names,
    isCellName name = true ∧ rules.accepts name = true

theorem proper_of_ofInput
    {contents : Contents} (given : ofInput rules.forCells input = .ok contents) :
    contents.Proper rules := by
  rcases ofInput_eq_ok_cases given with
    ⟨value, reads, same⟩ | ⟨expression, formula, _, _, parsed, same⟩ | ⟨reads, unmarked, same⟩
  · subst same
    refine ⟨?_, by simp, by simp [names]⟩
    intro stored same
    injection same with sameValue
    subst sameValue
    simpa using (Option.filter_eq_some_iff.1 reads).2
  · subst same
    refine ⟨by simp, by simp, ?_⟩
    intro name mentioned
    exact NameRules.accepts_forCells.1 (Formula.allowed_of_ofText parsed mentioned).2
  · subst same
    refine ⟨by simp, ?_, by simp [names]⟩
    intro stored same
    injection same with sameText
    subst sameText
    exact ⟨unmarked, reads⟩

end Contents

end Reckon
