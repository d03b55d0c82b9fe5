import Reckon.Proofs.Commands
import Reckon.Proofs.Undo

/-!
Commands that fail. A command that fails leaves the shell as it was, but for one case: a
cell is set before the changed values are shown, and each of these is looked up by its
stored name as if that were entered. Where an accepted name is no longer accepted once it
is brought to canonical form again, the command fails although the cell stays set. Under
the rules by which accepted names are accepted again there is no such case.
-/

namespace Reckon

/-- A canonical form that is accepted is still accepted when it is written as a name. -/
def NameRules.AcceptsAgain (rules : NameRules) : Prop :=
  ∀ written, rules.forCells.accepts (rules.canonical written) = true →
    rules.forCells.accepts (rules.canonical (rules.canonical written)) = true

theorem NameRules.Settled.acceptsAgain {rules : NameRules} (settled : rules.Settled) :
    rules.AcceptsAgain := by
  intro written accepted
  rw [settled written accepted]
  exact accepted

namespace Sheet

variable {rules : NameRules} {version : String} {sheet after : Sheet}

/-- A cell is stored under the canonical form of a name. -/
theorem Reached.exists_written
    (reached : Reached rules version sheet) {name : String} {contents : Contents}
    (stored : sheet.storedContents? name = some contents) :
    ∃ written, rules.canonical written = name := by
  induction reached with
  | empty =>
      rw [storedContents?_empty] at stored
      cases stored
  | @edited sheet reached entered input inductionHypothesis =>
      rcases run_edit_cases sheet entered input with
        ⟨refusal, refused⟩ | ⟨text, canonical, given, order, _, resolved, _, _, done⟩
      · rw [Sheet.edited, refused] at stored
        exact inductionHypothesis stored
      · rw [Sheet.edited, done] at stored
        rcases stored_of_completed stored with ⟨same, _, _⟩ | before
        · rw [same]
          exact ⟨entered, (reached.resolve_eq_ok_iff.1 resolved).1⟩
        · exact inductionHypothesis before
  | saved _ inductionHypothesis => exact inductionHypothesis stored

/-- What an edit recalculates are accepted canonical forms of names. -/
theorem Reached.canonical_of_mem_order
    (reached : Reached rules version sheet) {name : String} {input : Option String}
    {order : List String} (done : (edit name input).run sheet = .ok order after)
    {cell : String} (listed : cell ∈ order) :
    (∃ written, rules.canonical written = cell) ∧ rules.forCells.accepts cell = true := by
  by_cases same : cell = rules.canonical name
  · obtain ⟨_, _, _, accepted, _⟩ := reached.update_of_run_edit done
    rw [same]
    exact ⟨⟨name, rfl⟩, accepted⟩
  · have reachedAfter := reached.run_edit done
    rw [← reached.rules_eq] at same
    obtain ⟨formula, stored⟩ := reached.coherent.exists_formula_of_mem_order done listed same
    have accepted := reachedAfter.coherent.accepted cell _ stored
    rw [reachedAfter.rules_eq] at accepted
    exact ⟨reachedAfter.exists_written stored, accepted⟩

end Sheet

namespace Shell

section

variable {Files : Type} [FileAccess (StateM Files)] {files rest : Files}
  {shell after : Shell} {command : Command} {error : ShellError}

/-- The ways in which a command fails: nothing is changed, or a cell is set and one of the
changed values is not shown because its name is not accepted. -/
theorem execute_eq_error
    (failed : runOn files (shell.execute command) = ((after, .error error), rest)) :
    (after = shell ∨
      ∃ cell contents order name, command = .set cell contents ∧
        (Sheet.edit cell (some contents)).run shell.sheet = .ok order after.sheet ∧
          after.path = shell.path ∧ name ∈ order ∧
            after.sheet.rules.forCells.accepts (after.sheet.rules.canonical name) = false ∧
              error = .sheet (.invalidName name)) ∧
      (FileAccess.Steady Files → rest = files) := by
  rcases runOn_execute_cases shell command files with
    ⟨result, rest, same, unchanged⟩ | ⟨cell, contents, order, sheet, isSet, done, executed⟩ |
      ⟨path, target, rest, _, _, saved⟩
  · rw [same] at failed
    injection failed with sameResult sameFiles
    injection sameResult with sameShell
    exact ⟨Or.inl sameShell.symm, fun steady => sameFiles ▸ unchanged steady⟩
  · rw [executed] at failed
    injection failed with sameResult sameFiles
    injection sameResult with sameShell reported
    subst sameShell
    refine ⟨Or.inr ?_, fun _ => sameFiles.symm⟩
    rcases describeAll_cases sheet order with ⟨_, shown⟩ | ⟨name, listed, rejected, notShown⟩
    · rw [shown] at reported
      cases reported
    · rw [notShown] at reported
      injection reported with reported
      exact ⟨cell, contents, order, name, isSet, done, rfl, listed, rejected, reported.symm⟩
  · rw [saved] at failed
    injection failed with sameResult
    injection sameResult with _ reported
    cases reported

/-- Where accepted names are accepted again, a command that fails changes nothing. -/
theorem eq_of_execute_eq_error
    {rules : NameRules} {version : String} (again : rules.AcceptsAgain)
    (reached : Sheet.Reached rules version shell.sheet)
    (failed : runOn files (shell.execute command) = ((after, .error error), rest)) :
    after = shell := by
  rcases (execute_eq_error failed).1 with
    same | ⟨cell, contents, order, name, _, done, _, listed, rejected, _⟩
  · exact same
  · obtain ⟨⟨written, canonical⟩, accepted⟩ := reached.canonical_of_mem_order done listed
    rw [(reached.run_edit done).rules_eq, ← canonical] at rejected
    rw [← canonical] at accepted
    rw [again written accepted] at rejected
    cases rejected

/-- Where a name is not accepted again, its cell is set and the command still fails. -/
theorem executeSet_of_rejected_again
    {rules : NameRules} {version : String} (reached : Sheet.Reached rules version shell.sheet)
    {cell contents : String} {order : List String} {sheet : Sheet}
    (done : (Sheet.edit cell (some contents)).run shell.sheet = .ok order sheet)
    (rejected : rules.forCells.accepts (rules.canonical (rules.canonical cell)) = false) :
    ∃ name, shell.executeSet cell contents =
      (⟨sheet, shell.path⟩, .error (.sheet (.invalidName name))) := by
  have first : rules.canonical cell ∈ order := by
    rw [← reached.rules_eq]
    exact List.mem_of_head? (reached.coherent.order_of_run_edit done).1
  have rejectedFirst :
      sheet.rules.forCells.accepts (sheet.rules.canonical (rules.canonical cell)) = false := by
    rw [(reached.run_edit done).rules_eq]
    exact rejected
  rcases describeAll_cases sheet order with ⟨accepted, _⟩ | ⟨name, _, _, notShown⟩
  · exact absurd (rejectedFirst.symm.trans (accepted _ first)) Bool.false_ne_true
  · refine ⟨name, ?_⟩
    rw [executeSet, done]
    dsimp only
    rw [notShown]
    rfl

private theorem exists_run_edit_empty
    {rules : NameRules} (version : String) {written : String}
    (accepted : rules.forCells.accepts (rules.canonical written) = true) :
    ∃ order sheet, (Sheet.edit written (some (Contents.inputText .empty))).run
      (.empty rules version) = .ok order sheet ∧ sheet.changed = true := by
  have understood : (Sheet.empty rules version).understand (Contents.inputText .empty) =
      .ok .empty := Sheet.understand_eq_ok.2 (Contents.ofInput_empty _)
  have acceptedHere : (Sheet.empty rules version).rules.forCells.accepts
      ((Sheet.empty rules version).rules.canonical written) = true := accepted
  obtain ⟨order, sheet, done⟩ :=
    Sheet.run_edit_of_not_closes (Sheet.coherent_empty rules version) acceptedHere understood
      (Sheet.not_closes_of_names_eq_nil rfl)
  refine ⟨order, sheet, done, ?_⟩
  obtain ⟨given, _, same⟩ := Sheet.completed_of_run_edit_eq_ok done
  rw [same]
  rfl

/-- A command that fails leaves the path as it was, and the sheet as well unless it has set
a cell and can not show a changed value, because a name that was accepted is not accepted
again. There is no such command exactly where accepted names are accepted again. -/
theorem failing_commands_atomic_iff
    (files : Files) (rules : NameRules) (version : String) :
    (∀ (shell : Shell), Sheet.Reached rules version shell.sheet →
      ∀ (command : Command) (after : Shell) (error : ShellError) (rest : Files),
        runOn files (shell.execute command) = ((after, .error error), rest) →
          after.path = shell.path ∧
            (after.sheet = shell.sheet ∨
              ∃ cell contents order name, command = .set cell contents ∧
                (Sheet.edit cell (some contents)).run shell.sheet = .ok order after.sheet ∧
                  name ∈ order ∧ rules.forCells.accepts name = true ∧
                    rules.forCells.accepts (rules.canonical name) = false ∧
                      error = .sheet (.invalidName name))) ∧
    ((∀ (shell : Shell), Sheet.Reached rules version shell.sheet →
      ∀ (command : Command) (after : Shell) (error : ShellError) (rest : Files),
        runOn files (shell.execute command) = ((after, .error error), rest) → after = shell) ↔
      rules.AcceptsAgain) := by
  refine ⟨?_, ?_, ?_⟩
  · intro shell reached command after error rest failed
    rcases (execute_eq_error failed).1 with
      same | ⟨cell, contents, order, name, isSet, done, path, listed, rejected, reported⟩
    · rw [same]
      exact ⟨rfl, Or.inl rfl⟩
    · have accepted := (reached.canonical_of_mem_order done listed).2
      rw [(reached.run_edit done).rules_eq] at rejected
      exact ⟨path, Or.inr
        ⟨cell, contents, order, name, isSet, done, listed, accepted, rejected, reported⟩⟩
  · intro atomic written accepted
    by_contra notAgain
    have rejected := Bool.eq_false_iff.2 notAgain
    obtain ⟨order, sheet, done, changed⟩ := exists_run_edit_empty version accepted
    obtain ⟨name, executed⟩ : ∃ name,
        executeSet ⟨.empty rules version, none⟩ written (Contents.inputText .empty) =
          (⟨sheet, none⟩, .error (.sheet (.invalidName name))) :=
      executeSet_of_rejected_again .empty done rejected
    have failed : runOn files (execute ⟨.empty rules version, none⟩
        (.set written (Contents.inputText .empty))) =
          ((⟨sheet, none⟩, .error (.sheet (.invalidName name))), files) := by
      rw [execute, executed]
      rfl
    have same := atomic _ .empty _ _ _ _ failed
    injection same with same
    rw [same] at changed
    cases changed
  · intro again shell reached command after error rest failed
    exact eq_of_execute_eq_error again reached failed

end

/-- Names in lower case are brought to upper case and others get a zero at their end, of
which no more than three characters are accepted. The cell is set, and the command fails
since its name is too long when it is looked up. -/
theorem failing_set_not_atomic :
    let rules : NameRules :=
      ⟨fun name => if name.toList.head?.any Char.isLower then Text.upper name else name ++ "0",
        fun name => name.utf8ByteSize ≤ 3⟩
    let shell : Shell := ⟨.empty rules "default", none⟩
    let result := runOn Disk.empty (shell.execute (.set "a11" "5"))
    Sheet.Reached rules "default" shell.sheet ∧
      result.1.2 = .error (.sheet (.invalidName "A11")) ∧
      result.1.1.sheet.storedContents? "A11" = some (.number 5) ∧
      result.1.1 ≠ shell := by
  intro rules shell result
  have changed : result.1.1.sheet.changed = true := by decide +kernel
  refine ⟨.empty, by decide +kernel, by decide +kernel, ?_⟩
  intro same
  rw [same] at changed
  cases changed

end Shell

end Reckon
