import Reckon.Proofs.Contents
import Reckon.Proofs.Planning

/-!
What an edit does. It asks its questions before it changes anything, so that a
refused edit leaves the sheet as it is; a planned one installs the contents and
recomputes the planned cells, which makes the value of every cell agree with what
the cell reads.
-/

namespace Reckon

theorem mapError_eq_ok
    {α first second : Type} {change : first → second} {result : Except first α} {found : α} :
    result.mapError change = .ok found ↔ result = .ok found := by
  cases result with
  | ok other => simp [Except.mapError]
  | error fault => simp [Except.mapError]

namespace Sheet

/-! ## Questions before an edit -/

theorem resolve_eq_ok {sheet : Sheet} {name canonical : String} :
    sheet.resolve name = .ok canonical ↔
      sheet.rules.canonical name = canonical ∧
        sheet.rules.forCells.accepts canonical = true := by
  unfold resolve
  dsimp only
  split
  · next accepts =>
      constructor
      · intro same
        injection same with equality
        exact ⟨equality, equality ▸ accepts⟩
      · intro canonicalForm
        rw [canonicalForm.1]
  · next rejects =>
      constructor
      · intro same
        cases same
      · intro canonicalForm
        obtain ⟨same, accepts⟩ := canonicalForm
        rw [← same] at accepts
        exact absurd accepts rejects

theorem plan_eq_ok {sheet : Sheet} {name : String} {contents : Contents} {order : List String} :
    sheet.plan name contents = .ok order ↔
      orderIf sheet.graph name contents.names = .ok order := by
  rw [plan, mapError_eq_ok]

theorem understand_eq_ok {sheet : Sheet} {text : String} {contents : Contents} :
    sheet.understand text = .ok contents ↔
      Contents.ofInput sheet.rules.forCells text = .ok contents := by
  rw [understand, mapError_eq_ok]

section

variable {sheet : Sheet} {name text : String}

theorem resolve_of_accepts
    (accepted : sheet.rules.forCells.accepts (sheet.rules.canonical name) = true) :
    sheet.resolve name = .ok (sheet.rules.canonical name) :=
  resolve_eq_ok.2 ⟨rfl, accepted⟩

theorem resolve_of_rejects
    (rejected : sheet.rules.forCells.accepts (sheet.rules.canonical name) = false) :
    sheet.resolve name = .error (.invalidName name) := by
  simp [resolve, rejected]

theorem understand_of_formula
    {expression : List Char} (noNumber : Contents.number? text = none)
    (marked : text.toList = '=' :: expression) :
    sheet.understand text =
      ((Formula.ofText sheet.rules.forCells (String.ofList expression)).map
        Contents.formula).mapError .badFormula := by
  rw [understand, Contents.ofInput_of_formula noNumber marked]

end

/-! ## The course of an edit -/

def completed
    (sheet : Sheet) (name : String) (contents : Contents) (order : List String) : Sheet :=
  { order.foldl recompute (sheet.install name contents) with changed := true }

/-- What is decided about an edit before anything is changed: which cell gets which
contents, and what is recalculated. -/
def decision (sheet : Sheet) (name : String) (input : Option String) :
    Except SheetError (String × Contents × List String) := do
  let some text := input | throw (.nullContent name)
  let canonical ← sheet.resolve name
  let contents ← sheet.understand text
  let order ← sheet.plan canonical contents
  return (canonical, contents, order)

private theorem decision_eq_ok
    {sheet : Sheet} {name canonical : String} {input : Option String} {contents : Contents}
    {order : List String} :
    sheet.decision name input = .ok (canonical, contents, order) ↔
      ∃ text, input = some text ∧ sheet.resolve name = .ok canonical ∧
        sheet.understand text = .ok contents ∧ sheet.plan canonical contents = .ok order := by
  cases input with
  | none => simp [decision, throw, throwThe, MonadExceptOf.throw]
  | some text =>
      refine bind_eq_ok.trans ?_
      simp only [bind_eq_ok, pure, Except.pure]
      simp

theorem decision_congr
    {sheet other : Sheet} (sameRules : sheet.rules = other.rules)
    (sameGraph : sheet.graph = other.graph) (name : String) (input : Option String) :
    sheet.decision name input = other.decision name input := by
  simp only [decision, resolve, understand, plan, sameRules, sameGraph]

theorem run_ask
    {α : Type} (question : Sheet → Except SheetError α) (sheet : Sheet) :
    (ask question).run sheet =
      match question sheet with
      | .ok answer => .ok answer sheet
      | .error refusal => .error refusal sheet :=
  rfl

private theorem run_recompute (order : List String) (sheet : Sheet) :
    (forIn order PUnit.unit fun cell _ => do
        modify fun current => current.recompute cell
        pure (ForInStep.yield PUnit.unit) : EStateM SheetError Sheet PUnit).run sheet =
      .ok PUnit.unit (order.foldl recompute sheet) := by
  induction order generalizing sheet with
  | nil => rfl
  | cons cell rest inductionHypothesis =>
      rw [List.forIn_cons]
      exact inductionHypothesis (sheet.recompute cell)

section

variable {sheet : Sheet} {name text canonical : String} {contents : Contents}
  {order : List String} {refusal : SheetError}

theorem run_edit_none (sheet : Sheet) (name : String) :
    (edit name none).run sheet = .error (.nullContent name) sheet :=
  rfl

theorem run_edit_of_resolve_eq_error
    (resolved : sheet.resolve name = .error refusal) :
    (edit name (some text)).run sheet = .error refusal sheet := by
  simp only [edit, EStateM.run_bind, run_ask, resolved]

theorem run_edit_of_understand_eq_error
    (resolved : sheet.resolve name = .ok canonical)
    (understood : sheet.understand text = .error refusal) :
    (edit name (some text)).run sheet = .error refusal sheet := by
  simp only [edit, EStateM.run_bind, run_ask, resolved, understood]

theorem run_edit_of_plan_eq_error
    (resolved : sheet.resolve name = .ok canonical)
    (understood : sheet.understand text = .ok contents)
    (planned : sheet.plan canonical contents = .error refusal) :
    (edit name (some text)).run sheet = .error refusal sheet := by
  simp only [edit, EStateM.run_bind, run_ask, resolved, understood, planned]

theorem run_edit_of_plan_eq_ok
    (resolved : sheet.resolve name = .ok canonical)
    (understood : sheet.understand text = .ok contents)
    (planned : sheet.plan canonical contents = .ok order) :
    (edit name (some text)).run sheet =
      .ok order (sheet.completed canonical contents order) := by
  simp only [edit, EStateM.run_bind, run_ask, resolved, understood, planned,
    EStateM.run_modify, run_recompute]
  rfl

end

theorem run_edit_eq (sheet : Sheet) (name : String) (input : Option String) :
    (edit name input).run sheet =
      match sheet.decision name input with
      | .ok (canonical, contents, order) =>
          .ok order (sheet.completed canonical contents order)
      | .error refusal => .error refusal sheet := by
  cases input with
  | none => rfl
  | some text =>
      have steps : sheet.decision name (some text) =
          (sheet.resolve name).bind fun canonical =>
            (sheet.understand text).bind fun contents =>
              (sheet.plan canonical contents).bind fun order =>
                .ok (canonical, contents, order) := rfl
      cases resolved : sheet.resolve name with
      | error refusal =>
          simp only [steps, resolved, Except.bind]
          exact run_edit_of_resolve_eq_error resolved
      | ok canonical =>
          cases understood : sheet.understand text with
          | error refusal =>
              simp only [steps, resolved, understood, Except.bind]
              exact run_edit_of_understand_eq_error resolved understood
          | ok contents =>
              cases planned : sheet.plan canonical contents with
              | error refusal =>
                  simp only [steps, resolved, understood, planned, Except.bind]
                  exact run_edit_of_plan_eq_error resolved understood planned
              | ok order =>
                  simp only [steps, resolved, understood, planned, Except.bind]
                  exact run_edit_of_plan_eq_ok resolved understood planned

/-- An edit is refused and leaves the sheet as it is, or it is planned and carried
out. -/
theorem run_edit_cases (sheet : Sheet) (name : String) (input : Option String) :
    (∃ refusal, (edit name input).run sheet = .error refusal sheet) ∨
      ∃ text canonical contents order,
        input = some text ∧ sheet.resolve name = .ok canonical ∧
          sheet.understand text = .ok contents ∧
            sheet.plan canonical contents = .ok order ∧
              (edit name input).run sheet =
                .ok order (sheet.completed canonical contents order) := by
  rw [run_edit_eq]
  cases decided : sheet.decision name input with
  | error refusal => exact Or.inl ⟨refusal, rfl⟩
  | ok decision =>
      obtain ⟨canonical, contents, order⟩ := decision
      obtain ⟨text, written, resolved, understood, planned⟩ := decision_eq_ok.1 decided
      exact Or.inr ⟨text, canonical, contents, order, written, resolved, understood, planned, rfl⟩

theorem completed_of_run_edit_eq_ok
    {sheet after : Sheet} {name : String} {input : Option String} {order : List String}
    (done : (edit name input).run sheet = .ok order after) :
    ∃ contents, orderIf sheet.graph (sheet.rules.canonical name) contents.names = .ok order ∧
      after = sheet.completed (sheet.rules.canonical name) contents order := by
  rcases run_edit_cases sheet name input with
    ⟨refusal, refused⟩ |
      ⟨text, canonical, contents, planned, _, resolved, _, plan, carriedOut⟩
  · rw [refused] at done
    cases done
  · rw [carriedOut] at done
    injection done with sameOrder sameSheet
    subst sameOrder
    rw [(resolve_eq_ok.1 resolved).1]
    exact ⟨contents, plan_eq_ok.1 plan, sameSheet.symm⟩

theorem exists_run_edit_eq_ok
    {sheet : Sheet} {name : String} {input : Option String} {order : List String}
    (recalculated : (sheet.set name input).toOption.map Prod.snd = some order) :
    ∃ after, (edit name input).run sheet = .ok order after := by
  unfold set at recalculated
  split at recalculated
  · next found after done =>
      obtain rfl : found = order := by simpa [Except.toOption] using recalculated
      exact ⟨after, done⟩
  · simp [Except.toOption] at recalculated

/-! ## What is stored -/

def storedContents? (sheet : Sheet) (name : String) : Option Contents :=
  (sheet.cells[name]?).map Cell.contents

def storedValue? (sheet : Sheet) (name : String) : Option CellValue :=
  (sheet.cells[name]?).map Cell.value

/-- The target is a stored cell with a formula that mentions the source. -/
def Mentions (sheet : Sheet) (target source : String) : Prop :=
  ∃ formula, sheet.storedContents? target = some (.formula formula) ∧
    source ∈ formula.names

/-- The value stored under a name is that of the contents, where the cells that
these read have the values stored now. -/
def Consistent (sheet : Sheet) (name : String) : Prop :=
  ∀ cell, sheet.cells[name]? = some cell →
    cell.value = cell.contents.value sheet.numberIn

theorem storedContents?_eq_some
    {sheet : Sheet} {name : String} {cell : Cell}
    (stored : sheet.cells[name]? = some cell) :
    sheet.storedContents? name = some cell.contents := by
  rw [storedContents?, stored, Option.map_some]

theorem numberIn_eq {sheet : Sheet} {name : String} :
    sheet.numberIn name = (sheet.storedValue? name).bind CellValue.number? := by
  rw [numberIn, storedValue?]
  cases sheet.cells[name]? with
  | none => rfl
  | some cell => rfl

theorem mentions_iff {sheet : Sheet} {target source : String} :
    sheet.Mentions target source ↔
      ∃ contents, sheet.storedContents? target = some contents ∧
        source ∈ contents.names := by
  constructor
  · intro mentions
    obtain ⟨formula, stored, mentioned⟩ := mentions
    exact ⟨.formula formula, stored, mentioned⟩
  · intro mentions
    obtain ⟨contents, stored, mentioned⟩ := mentions
    cases contents with
    | formula formula => exact ⟨formula, stored, mentioned⟩
    | number entered => exact absurd mentioned List.not_mem_nil
    | text written => exact absurd mentioned List.not_mem_nil

/-! ## Installing contents -/

section

variable {sheet : Sheet} {name other : String} {contents : Contents}

theorem getElem?_install_of_ne (different : other ≠ name) :
    (sheet.install name contents).cells[other]? = sheet.cells[other]? := by
  simp only [install]
  split
  · simp [Std.ExtTreeMap.getElem?_erase, Ne.symm different]
  · split <;> simp [Std.ExtTreeMap.getElem?_insert, Ne.symm different]

theorem getElem?_install_self :
    (sheet.install name contents).cells[name]? =
      if contents.isEmpty then
        none
      else
        some { (sheet.cells[name]?).getD (.new name contents) with contents := contents } := by
  simp only [install]
  split
  · simp
  · split
    · next cell stored => simp [stored]
    · next absent => simp [absent, Cell.new]

theorem storedContents?_install_of_ne (different : other ≠ name) :
    (sheet.install name contents).storedContents? other = sheet.storedContents? other := by
  rw [storedContents?, getElem?_install_of_ne different, storedContents?]

theorem storedContents?_install_self :
    (sheet.install name contents).storedContents? name =
      if contents.isEmpty then none else some contents := by
  rw [storedContents?, getElem?_install_self]
  split <;> rfl

theorem mentions_install_of_ne (different : other ≠ name) {source : String} :
    (sheet.install name contents).Mentions other source ↔ sheet.Mentions other source := by
  simp only [Mentions, storedContents?_install_of_ne different]

theorem mentions_install_self {source : String} :
    (sheet.install name contents).Mentions name source ↔ source ∈ contents.names := by
  rw [mentions_iff, storedContents?_install_self]
  split
  · next nothing => simp [Contents.names_eq_nil_of_isEmpty nothing]
  · simp

/-! ## Recomputing cells -/

private theorem recompute_eq (sheet : Sheet) (name : String) :
    ∃ cells, sheet.recompute name = { sheet with cells := cells } := by
  unfold recompute
  split
  · exact ⟨sheet.cells, rfl⟩
  · exact ⟨_, rfl⟩

theorem foldl_recompute_eq (order : List String) (sheet : Sheet) :
    ∃ cells, order.foldl recompute sheet = { sheet with cells := cells } := by
  induction order generalizing sheet with
  | nil => exact ⟨sheet.cells, rfl⟩
  | cons cell rest inductionHypothesis =>
      obtain ⟨first, equality⟩ := recompute_eq sheet cell
      obtain ⟨last, equalityRest⟩ := inductionHypothesis (sheet.recompute cell)
      refine ⟨last, ?_⟩
      rw [List.foldl_cons, equalityRest, equality]

private theorem getElem?_recompute_of_ne (different : other ≠ name) :
    (sheet.recompute name).cells[other]? = sheet.cells[other]? := by
  unfold recompute
  split
  · rfl
  · simp [Std.ExtTreeMap.getElem?_insert, Ne.symm different]

private theorem getElem?_recompute_self :
    (sheet.recompute name).cells[name]? =
      (sheet.cells[name]?).map fun cell =>
        { cell with value := cell.contents.value sheet.numberIn } := by
  unfold recompute
  split
  · next absent => simp [absent]
  · next cell stored => simp [stored]

private theorem map_getElem?_recompute
    {β : Type} (view : Cell → β)
    (blind : ∀ cell value, view { cell with value := value } = view cell) :
    ((sheet.recompute name).cells[other]?).map view = (sheet.cells[other]?).map view := by
  by_cases same : other = name
  · subst same
    rw [getElem?_recompute_self, Option.map_map]
    exact congrArg (Option.map · _) (funext fun cell => blind cell _)
  · rw [getElem?_recompute_of_ne same]

theorem map_getElem?_foldl_recompute
    {β : Type} (view : Cell → β)
    (blind : ∀ cell value, view { cell with value := value } = view cell)
    (order : List String) (sheet : Sheet) (other : String) :
    ((order.foldl recompute sheet).cells[other]?).map view =
      (sheet.cells[other]?).map view := by
  induction order generalizing sheet with
  | nil => rfl
  | cons cell rest inductionHypothesis =>
      rw [List.foldl_cons, inductionHypothesis, map_getElem?_recompute view blind]

theorem getElem?_foldl_recompute_of_not_mem
    {order : List String} (unlisted : other ∉ order) (sheet : Sheet) :
    (order.foldl recompute sheet).cells[other]? = sheet.cells[other]? := by
  induction order generalizing sheet with
  | nil => rfl
  | cons cell rest inductionHypothesis =>
      obtain ⟨different, unlistedRest⟩ := not_or.1 (unlisted ∘ List.mem_cons.2)
      rw [List.foldl_cons, inductionHypothesis unlistedRest,
        getElem?_recompute_of_ne different]

private theorem storedContents?_recompute :
    (sheet.recompute name).storedContents? other = sheet.storedContents? other :=
  map_getElem?_recompute Cell.contents fun _ _ => rfl

private theorem mentions_recompute {target source : String} :
    (sheet.recompute name).Mentions target source ↔ sheet.Mentions target source := by
  simp only [Mentions, storedContents?_recompute]

private theorem numberIn_recompute_of_ne (different : other ≠ name) :
    (sheet.recompute name).numberIn other = sheet.numberIn other := by
  simp only [numberIn, getElem?_recompute_of_ne different]

/-! ## Consistent values -/

private theorem mentions_of_mem_names
    {cell : Cell} {source : String} (stored : sheet.cells[name]? = some cell)
    (mentioned : source ∈ cell.contents.names) :
    sheet.Mentions name source := by
  exact mentions_iff.2 ⟨cell.contents, storedContents?_eq_some stored, mentioned⟩

/-- A value stays consistent as long as the cell and the numbers that it reads stay
the same. -/
theorem Consistent.congr
    {after : Sheet} (consistent : sheet.Consistent name)
    (same : after.cells[name]? = sheet.cells[name]?)
    (read : ∀ source, sheet.Mentions name source →
      after.numberIn source = sheet.numberIn source) :
    after.Consistent name := by
  intro cell stored
  rw [same] at stored
  rw [consistent cell stored]
  apply Contents.value_congr
  intro source mentioned
  exact (read source (mentions_of_mem_names stored mentioned)).symm

private theorem Consistent.recompute_of_ne
    (consistent : sheet.Consistent other) (different : other ≠ name)
    (unmentioned : ¬ sheet.Mentions other name) :
    (sheet.recompute name).Consistent other := by
  apply consistent.congr (getElem?_recompute_of_ne different)
  intro source mentions
  have unchanged : source ≠ name := by
    intro same
    subst same
    exact unmentioned mentions
  exact numberIn_recompute_of_ne unchanged

private theorem consistent_recompute_self (unmentioned : ¬ sheet.Mentions name name) :
    (sheet.recompute name).Consistent name := by
  intro cell stored
  rw [getElem?_recompute_self] at stored
  obtain ⟨before, storedBefore, equality⟩ := Option.map_eq_some_iff.1 stored
  subst equality
  apply Contents.value_congr
  intro source mentioned
  have unchanged : source ≠ name := by
    intro same
    subst same
    exact unmentioned (mentions_of_mem_names storedBefore mentioned)
  exact (numberIn_recompute_of_ne unchanged).symm

end

/-- Recomputing cells in order makes all of them consistent and leaves the others
so, because nothing that was recomputed reads what is recomputed later. -/
theorem consistent_foldl_recompute
    {dependentsOf : String → List String} {order : List String} {sheet : Sheet}
    (ordered : Ordered dependentsOf order)
    (triggered : ∀ target source, sheet.Mentions target source →
      target ∈ dependentsOf source)
    (outside : ∀ name, name ∉ order → sheet.Consistent name) (name : String) :
    (order.foldl recompute sheet).Consistent name := by
  induction order generalizing sheet with
  | nil => exact outside name List.not_mem_nil
  | cons cell later inductionHypothesis =>
      obtain ⟨unlisted, dependents, orderedLater⟩ := ordered
      apply inductionHypothesis orderedLater
      · intro target source mentions
        exact triggered target source (mentions_recompute.1 mentions)
      · intro other notLater
        have unmentioned : ¬ sheet.Mentions other cell := fun mentions =>
          notLater (dependents other (triggered other cell mentions))
        by_cases same : other = cell
        · subst same
          exact consistent_recompute_self unmentioned
        · have notListed : other ∉ cell :: later := fun listed =>
            (List.mem_cons.1 listed).elim same notLater
          exact (outside other notListed).recompute_of_ne same unmentioned

end Sheet

end Reckon
