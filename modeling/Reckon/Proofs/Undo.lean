import Reckon.Proofs.Recalculation
import Reckon.Proofs.SavedSheets
import Reckon.Proofs.SettledNames

/-!
Undoing an edit. Entering the text of the contents that a cell had before an edit leads
back to the sheet before the edit. The sheet that holds the old contents again holds what
that sheet held, in which no formula depends on itself, so that the text is never refused
as circular; and what a sheet holds settles its values and its graph.
-/

namespace Reckon

namespace Contents

theorem ofInput_empty (rules : NameRules) : ofInput rules (inputText .empty) = .ok .empty := by
  have noNumber : number? (inputText .empty) = none := by decide +kernel
  apply ofInput_of_text noNumber
  intro expression marked
  cases marked

end Contents

namespace Sheet

section

variable {rules : NameRules} {version : String} {sheet before after : Sheet}
  {name canonical : String} {contents : Contents} {input : Option String}
  {order : List String}

private theorem storedContents_eq (sheet : Sheet) (name : String) :
    sheet.storedContents name = (sheet.storedContents? name).getD .empty := by
  rw [storedContents, storedContents?]
  cases sheet.cells[name]? with
  | none => rfl
  | some cell => rfl

theorem Coherent.stored?_storedContents (coherent : sheet.Coherent) (name : String) :
    (sheet.storedContents name).stored? = sheet.storedContents? name := by
  rw [storedContents_eq]
  cases stored : sheet.storedContents? name with
  | none => rfl
  | some contents => exact stored?_of_storedContents? coherent stored

theorem Reached.ofInput_inputText_storedContents
    (settled : rules.Settled) (reached : Reached rules version sheet) (name : String) :
    Contents.ofInput rules.forCells (sheet.storedContents name).inputText =
      .ok (sheet.storedContents name) := by
  rw [storedContents_eq]
  cases stored : sheet.storedContents? name with
  | none => exact Contents.ofInput_empty rules.forCells
  | some contents =>
      obtain ⟨input, given⟩ := reached.entered stored
      exact Contents.ofInput_inputText given (settled.canonical_of_mem_names given)

/-- Contents that make a sheet hold exactly what a reached one holds can be entered, and
they make it that sheet, but for the note that there is a change. -/
theorem Reached.exists_run_edit_eq_ok_of_install
    (reached : Reached rules version sheet) (target : Reached rules version before)
    (accepted : rules.forCells.accepts (rules.canonical name) = true)
    {text : String} (understood : Contents.ofInput rules.forCells text = .ok contents)
    (restored : (sheet.install (rules.canonical name) contents).storedContents? =
      before.storedContents?) :
    ∃ order, (edit name (some text)).run sheet = .ok order { before with changed := true } := by
  have coherent := reached.coherent
  have resolved : sheet.resolve name = .ok (rules.canonical name) :=
    reached.resolve_eq_ok_iff.2 ⟨rfl, accepted⟩
  have read : sheet.understand text = .ok contents := reached.understand_eq_ok_iff.2 understood
  have within : (sheet.install (rules.canonical name) contents).Within before :=
    fun other found stored => restored ▸ stored
  obtain ⟨order, planned⟩ :=
    exists_plan_eq_ok coherent (not_closes_of_within coherent target.coherent within)
  have done := run_edit_of_plan_eq_ok resolved read planned
  have sameContents : (sheet.completed (rules.canonical name) contents order).storedContents? =
      before.storedContents? := by
    rw [← restored]
    funext other
    exact storedContents?_completed
  have same := (reached.run_edit done).markSaved_eq target sameContents
  refine ⟨order, done.trans ?_⟩
  congr 1
  exact congrArg (fun saved : Sheet => { saved with changed := true }) same

/-- Once an edit is carried out, the text of the contents that the cell had before it can
be entered, whatever has been entered instead of them; and this gives back the sheet
before the edit, with its cells, their values and its graph, where only the change is
noted. -/
theorem Reached.exists_undo_of_run_edit_eq_ok
    (settled : rules.Settled) (reached : Reached rules version before)
    (done : (edit name input).run before = .ok order after) :
    ∃ contents, before.contents name = .ok contents ∧
      ∃ undoOrder, (edit name (some contents.inputText)).run after =
        .ok undoOrder { before with changed := true } := by
  obtain ⟨text, given, _, accepted, _, stored⟩ := reached.update_of_run_edit done
  have shown : before.contents name =
      .ok (before.storedContents (rules.canonical name)) := by
    rw [Sheet.contents, reached.resolve_eq_ok_iff.2 ⟨rfl, accepted⟩]
    rfl
  refine ⟨_, shown, ?_⟩
  apply (reached.run_edit done).exists_run_edit_eq_ok_of_install reached accepted
    (reached.ofInput_inputText_storedContents settled _)
  rw [storedContents?_install_eq_update, stored, Function.update_idem,
    reached.coherent.stored?_storedContents, Function.update_eq_self]

end

/-- A formula that others read, and that is written in lower case where upper case is
canonical, is cleared and comes back from its text. -/
theorem exists_undo_of_cleared_formula :
    let rules : NameRules := Normalization.upper.rules
    let before := afterEdits rules "v1"
      [("c1", some "=b1/a1"), ("b1", some "=(a1+1)*2"), ("a1", some "4")]
    rules.Settled ∧ Reached rules "v1" before ∧
      ∃ after, (edit "b1" (some "")).run before = .ok ["B1", "C1"] after ∧
        after.storedValue? "C1" = some (.error (.undefinedVariable "B1")) ∧
        ∃ undoOrder, (edit "b1" (some "=(A1+1)*2")).run after =
          .ok undoOrder { before with changed := true } := by
  intro rules before
  have settled : rules.Settled := Normalization.settled .upper
  have reached : Reached rules "v1" before := reached_afterEdits rules "v1" _
  have recalculated :
      (before.set "b1" (some "")).toOption.map Prod.snd = some ["B1", "C1"] := by
    decide +kernel
  have failed : ((before.set "b1" (some "")).toOption.bind fun result =>
      result.1.storedValue? "C1") = some (.error (.undefinedVariable "B1")) := by
    decide +kernel
  have written : (before.contents "b1").map Contents.inputText = .ok "=(A1+1)*2" := by
    decide +kernel
  obtain ⟨after, done⟩ := exists_run_edit_eq_ok recalculated
  obtain ⟨contents, shown, undo⟩ := reached.exists_undo_of_run_edit_eq_ok settled done
  rw [shown] at written
  injection written with sameText
  refine ⟨settled, reached, after, done, ?_, sameText ▸ undo⟩
  rw [set, done] at failed
  exact failed

end Sheet

end Reckon
