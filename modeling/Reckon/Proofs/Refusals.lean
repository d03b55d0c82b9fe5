import Reckon.Proofs.Reached
import Reckon.Text.Casing

/-!
Refused edits. In every sheet that can be reached, by edits, by saving and by loading,
an edit is refused exactly for a stated reason, in the order of the checks, and a
refused edit leaves the sheet as it is.
-/

namespace Reckon

namespace Sheet

/-- Why an edit of a sheet is refused: nothing is entered, the name is not accepted,
what follows the equals sign is not a formula, or the formula mentions the edited
cell or a cell that depends on it. -/
inductive Refused (sheet : Sheet) (name : String) : Option String → SheetError → Prop where
  | nothing : Refused sheet name none (.nullContent name)
  | name {text : String}
      (rejected : sheet.rules.forCells.accepts (sheet.rules.canonical name) = false) :
      Refused sheet name (some text) (.invalidName name)
  | formula {text : String} {expression : List Char} {flaw : FormatError}
      (accepted : sheet.rules.forCells.accepts (sheet.rules.canonical name) = true)
      (noNumber : Contents.number? text = none)
      (marked : text.toList = '=' :: expression)
      (flawed : Formula.ofText sheet.rules.forCells (String.ofList expression) =
        .error flaw) :
      Refused sheet name (some text) (.badFormula flaw)
  | circle {text : String} {expression : List Char} {formula : Formula}
      (accepted : sheet.rules.forCells.accepts (sheet.rules.canonical name) = true)
      (noNumber : Contents.number? text = none)
      (marked : text.toList = '=' :: expression)
      (parsed : Formula.ofText sheet.rules.forCells (String.ofList expression) =
        .ok formula)
      (closes : sheet.graph.Closes (sheet.rules.canonical name) formula.names) :
      Refused sheet name (some text) (.circularDependency (sheet.rules.canonical name))

section

variable {sheet : Sheet} {name text : String} {input : Option String}

private theorem plan_of_closes
    (coherent : sheet.Coherent) {contents : Contents}
    (closes : sheet.graph.Closes name contents.names) :
    sheet.plan name contents = .error (.circularDependency name) := by
  cases planned : orderIf sheet.graph name contents.names with
  | ok order =>
      have noCycle := (exists_orderIf_eq_ok_iff coherent.mirrored coherent.acyclic).1
        ⟨order, planned⟩
      exact absurd closes noCycle
  | error detected =>
      rw [plan, planned]
      rfl

theorem exists_plan_eq_ok
    (coherent : sheet.Coherent) {contents : Contents}
    (noCycle : ¬ sheet.graph.Closes name contents.names) :
    ∃ order, sheet.plan name contents = .ok order := by
  obtain ⟨order, planned⟩ :=
    (exists_orderIf_eq_ok_iff coherent.mirrored coherent.acyclic).2 noCycle
  exact ⟨order, plan_eq_ok.2 planned⟩

/-- A refusal is reported, and the sheet stays as it is. -/
theorem Refused.run_edit
    (coherent : sheet.Coherent) {refusal : SheetError}
    (refused : Refused sheet name input refusal) :
    (edit name input).run sheet = .error refusal sheet := by
  cases refused with
  | nothing => exact run_edit_none sheet name
  | name rejected => exact run_edit_of_resolve_eq_error (resolve_of_rejects rejected)
  | formula accepted noNumber marked flawed =>
      apply run_edit_of_understand_eq_error (resolve_of_accepts accepted)
      rw [understand_of_formula noNumber marked, flawed]
      rfl
  | @circle text expression formula accepted noNumber marked parsed closes =>
      have understood : sheet.understand text = .ok (.formula formula) := by
        rw [understand_of_formula noNumber marked, parsed]
        rfl
      exact run_edit_of_plan_eq_error (resolve_of_accepts accepted) understood
        (plan_of_closes coherent closes)

/-- Contents that mention nothing are never refused as circular. -/
theorem not_closes_of_names_eq_nil
    {contents : Contents} (noNames : contents.names = []) :
    ¬ sheet.graph.Closes name contents.names := by
  intro closes
  obtain ⟨source, listed, _⟩ := closes
  rw [noNames] at listed
  exact List.not_mem_nil listed

theorem run_edit_of_not_closes
    (coherent : sheet.Coherent)
    (accepted : sheet.rules.forCells.accepts (sheet.rules.canonical name) = true)
    {contents : Contents} (understood : sheet.understand text = .ok contents)
    (noCycle : ¬ sheet.graph.Closes (sheet.rules.canonical name) contents.names) :
    ∃ order after, (edit name (some text)).run sheet = .ok order after := by
  obtain ⟨order, planned⟩ := exists_plan_eq_ok coherent noCycle
  exact ⟨order, _, run_edit_of_plan_eq_ok (resolve_of_accepts accepted) understood planned⟩

/-- An edit for whose refusal there is no reason is carried out. -/
theorem refused_or_run_edit
    (coherent : sheet.Coherent) (name : String) (input : Option String) :
    (∃ refusal, Refused sheet name input refusal) ∨
      ∃ order after, (edit name input).run sheet = .ok order after := by
  cases input with
  | none => exact Or.inl ⟨_, .nothing⟩
  | some text =>
      by_cases accepted : sheet.rules.forCells.accepts (sheet.rules.canonical name) = true
      · cases reads : Contents.number? text with
        | some value =>
            have understood : sheet.understand text = .ok (.number value) :=
              understand_eq_ok.2 (Contents.ofInput_of_number reads)
            exact Or.inr (run_edit_of_not_closes coherent accepted understood
              (not_closes_of_names_eq_nil rfl))
        | none =>
            by_cases marked : ∃ expression, text.toList = '=' :: expression
            · obtain ⟨expression, marked⟩ := marked
              cases parsed :
                  Formula.ofText sheet.rules.forCells (String.ofList expression) with
              | error flaw => exact Or.inl ⟨_, .formula accepted reads marked parsed⟩
              | ok formula =>
                  by_cases closes :
                      sheet.graph.Closes (sheet.rules.canonical name) formula.names
                  · exact Or.inl ⟨_, .circle accepted reads marked parsed closes⟩
                  · have understood : sheet.understand text = .ok (.formula formula) := by
                      rw [understand_of_formula reads marked, parsed]
                      rfl
                    exact Or.inr (run_edit_of_not_closes coherent accepted understood closes)
            · have understood : sheet.understand text = .ok (.text text) :=
                understand_eq_ok.2 <|
                  Contents.ofInput_of_text reads fun expression same =>
                    marked ⟨expression, same⟩
              exact Or.inr (run_edit_of_not_closes coherent accepted understood
                (not_closes_of_names_eq_nil rfl))
      · exact Or.inl ⟨_, .name (Bool.eq_false_iff.2 accepted)⟩

end

/-- An edit of a sheet that can be reached is refused exactly for a stated reason, it is
carried out if there is none, and a refused edit changes nothing. -/
theorem run_edit_eq_error_iff_refused
    {rules : NameRules} {version : String} {sheet : Sheet}
    (reached : Reached rules version sheet) (name : String) (input : Option String) :
    (∀ refusal after, (edit name input).run sheet = .error refusal after ↔
      Refused sheet name input refusal ∧ after = sheet) ∧
    ((∃ order after, (edit name input).run sheet = .ok order after) ↔
      ∀ refusal, ¬ Refused sheet name input refusal) := by
  have coherent : sheet.Coherent := reached.coherent
  constructor
  · intro refusal after
    constructor
    · intro reported
      rcases refused_or_run_edit coherent name input with
        ⟨reason, refused⟩ | ⟨order, completed, done⟩
      · rw [refused.run_edit coherent] at reported
        injection reported with sameRefusal sameSheet
        exact ⟨sameRefusal ▸ refused, sameSheet.symm⟩
      · rw [done] at reported
        cases reported
    · intro reason
      obtain ⟨refused, same⟩ := reason
      rw [same]
      exact refused.run_edit coherent
  · constructor
    · intro carriedOut refusal refused
      obtain ⟨order, after, done⟩ := carriedOut
      rw [refused.run_edit coherent] at done
      cases done
    · intro noReason
      rcases refused_or_run_edit coherent name input with ⟨reason, refused⟩ | done
      · exact absurd refused (noReason reason)
      · exact done

/-- In a saved sheet a formula that closes a cycle is refused, and there is still no change
to be saved; a number in its place is carried out. -/
theorem run_edit_eq_error_iff_refused_of_saved_sheet :
    let rules : NameRules := ⟨Text.upper, fun _ => true⟩
    let sheet := (afterEdits rules "default" [("b1", some "=a1*2"), ("a1", some "3")]).markSaved
    Reached rules "default" sheet ∧
      (edit "a1" (some "=b1")).run sheet = .error (.circularDependency "A1") sheet ∧
      sheet.changed = false ∧
      ∀ refusal, ¬ Refused sheet "a1" (some "4") refusal := by
  intro rules sheet
  have reached : Reached rules "default" sheet := (reached_afterEdits rules "default" _).saved
  have parsed : Formula.ofText sheet.rules.forCells (String.ofList ['b', '1']) =
      .ok ⟨[.name "B1"]⟩ := by
    rw [← toOption_eq_some]
    decide +kernel
  have canonical : sheet.rules.canonical "a1" = "A1" := by decide +kernel
  have edge : sheet.graph.contains "A1" "B1" = true := by decide +kernel
  have closes : sheet.graph.Closes (sheet.rules.canonical "a1")
      (Formula.mk [.name "B1"]).names := by
    rw [canonical]
    exact ⟨"B1", List.mem_cons_self, Or.inr (Relation.TransGen.single edge)⟩
  have refused : Refused sheet "a1" (some "=b1") (.circularDependency "A1") := by
    rw [← canonical]
    exact .circle (by decide +kernel) (by decide +kernel) rfl parsed closes
  have recalculated :
      (sheet.set "a1" (some "4")).toOption.map Prod.snd = some ["A1", "B1"] := by
    decide +kernel
  obtain ⟨after, done⟩ := exists_run_edit_eq_ok recalculated
  have reported := (run_edit_eq_error_iff_refused reached "a1" (some "=b1")).1
  have unrefused := (run_edit_eq_error_iff_refused reached "a1" (some "4")).2
  exact ⟨reached, (reported _ _).2 ⟨refused, rfl⟩, rfl, unrefused.1 ⟨_, after, done⟩⟩

end Sheet

end Reckon
