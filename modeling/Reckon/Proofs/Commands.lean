import Reckon.Proofs.FileRuns

/-!
What a command can do: it leaves the shell as it is, or sets a cell, or saves the sheet.
So a shell keeps a sheet that an empty one can become.
-/

namespace Reckon

namespace Shell

/-! ## Showing values -/

def shownLine (sheet : Sheet) (name : String) : String :=
  name ++ " = " ++ (sheet.storedValue (sheet.rules.canonical name)).shown

section

variable {sheet : Sheet} {name : String}

private theorem describe_of_accepts
    (accepted : sheet.rules.forCells.accepts (sheet.rules.canonical name) = true) :
    describe sheet name = .ok (shownLine sheet name) := by
  rw [describe, Sheet.value, Sheet.resolve_of_accepts accepted]
  rfl

private theorem describe_of_rejects
    (rejected : sheet.rules.forCells.accepts (sheet.rules.canonical name) = false) :
    describe sheet name = .error (.invalidName name) := by
  rw [describe, Sheet.value, Sheet.resolve_of_rejects rejected]
  rfl

private theorem mapM_describe_cases (sheet : Sheet) (names : List String) :
    ((∀ name ∈ names, sheet.rules.forCells.accepts (sheet.rules.canonical name) = true) ∧
      names.mapM (describe sheet) = .ok (names.map (shownLine sheet))) ∨
    ∃ name ∈ names, sheet.rules.forCells.accepts (sheet.rules.canonical name) = false ∧
      names.mapM (describe sheet) = .error (.invalidName name) := by
  induction names with
  | nil => exact Or.inl ⟨fun _ listed => absurd listed List.not_mem_nil, rfl⟩
  | cons first rest inductionHypothesis =>
      by_cases accepted : sheet.rules.forCells.accepts (sheet.rules.canonical first) = true
      · rcases inductionHypothesis with ⟨acceptedRest, shown⟩ | ⟨name, listed, rejected, failed⟩
        · refine Or.inl ⟨List.forall_mem_cons.2 ⟨accepted, acceptedRest⟩, ?_⟩
          rw [List.mapM_cons, describe_of_accepts accepted, shown]
          rfl
        · refine Or.inr ⟨name, List.mem_cons_of_mem _ listed, rejected, ?_⟩
          rw [List.mapM_cons, describe_of_accepts accepted, failed]
          rfl
      · have rejected := Bool.eq_false_iff.2 accepted
        refine Or.inr ⟨first, List.mem_cons_self, rejected, ?_⟩
        rw [List.mapM_cons, describe_of_rejects rejected]
        rfl

/-- The values under some names are shown if all names are accepted, and otherwise one
that is not is reported. -/
theorem describeAll_cases (sheet : Sheet) (names : List String) :
    ((∀ name ∈ names, sheet.rules.forCells.accepts (sheet.rules.canonical name) = true) ∧
      describeAll sheet names = .ok ("\n".intercalate (names.map (shownLine sheet)))) ∨
    ∃ name ∈ names, sheet.rules.forCells.accepts (sheet.rules.canonical name) = false ∧
      describeAll sheet names = .error (.invalidName name) := by
  rw [describeAll]
  rcases mapM_describe_cases sheet names with
    ⟨accepted, shown⟩ | ⟨name, listed, rejected, failed⟩
  · rw [shown]
    exact Or.inl ⟨accepted, rfl⟩
  · rw [failed]
    exact Or.inr ⟨name, listed, rejected, rfl⟩

end

/-! ## What a command does -/

section

variable {Files : Type} [FileAccess (StateM Files)]

theorem executeSet_cases (shell : Shell) (cell contents : String) :
    (∃ refusal, shell.executeSet cell contents = (shell, .error (.sheet refusal))) ∨
      ∃ order sheet, (Sheet.edit cell (some contents)).run shell.sheet = .ok order sheet ∧
        shell.executeSet cell contents =
          (⟨sheet, shell.path⟩, printed (describeAll sheet order)) := by
  rw [executeSet]
  rcases Sheet.run_edit_cases shell.sheet cell (some contents) with
    ⟨refusal, refused⟩ | ⟨_, canonical, given, order, _, _, _, _, done⟩
  · rw [refused]
    exact Or.inl ⟨refusal, rfl⟩
  · rw [done]
    exact Or.inr ⟨order, _, rfl, rfl⟩

theorem runOn_executeSave_cases (shell : Shell) (path : Option String) (files : Files) :
    (∃ error rest, runOn files (shell.executeSave path) = ((shell, .error error), rest) ∧
      (FileAccess.Steady Files → rest = files)) ∨
      ∃ target rest, (path <|> shell.path) = some target ∧
        runOn files (shell.executeSave path) =
          ((⟨shell.sheet.markSaved, some target⟩, .ok (.print ("saved " ++ target))), rest) := by
  rw [executeSave]
  cases chosen : path <|> shell.path with
  | none => exact Or.inl ⟨.noPath, files, rfl, fun _ => rfl⟩
  | some target =>
      dsimp only
      rw [runOn_bind]
      rcases Sheet.runOn_save_cases shell.sheet files target with
        ⟨rest, saved⟩ | ⟨fault, rest, failed, unchanged⟩
      · rw [saved]
        exact Or.inr ⟨target, rest, rfl, rfl⟩
      · rw [failed]
        exact Or.inl ⟨_, rest, rfl, unchanged⟩

/-- A command leaves the shell as it is, or sets a cell, or saves the sheet. -/
theorem runOn_execute_cases (shell : Shell) (command : Command) (files : Files) :
    (∃ result rest, runOn files (shell.execute command) = ((shell, result), rest) ∧
      (FileAccess.Steady Files → rest = files)) ∨
      (∃ cell contents order sheet, command = .set cell contents ∧
        (Sheet.edit cell (some contents)).run shell.sheet = .ok order sheet ∧
          runOn files (shell.execute command) =
            ((⟨sheet, shell.path⟩, printed (describeAll sheet order)), files)) ∨
        ∃ path target rest, command = .save path ∧ (path <|> shell.path) = some target ∧
          runOn files (shell.execute command) =
            ((⟨shell.sheet.markSaved, some target⟩, .ok (.print ("saved " ++ target))), rest) := by
  cases command with
  | set cell contents =>
      rcases executeSet_cases shell cell contents with
        ⟨refusal, refused⟩ | ⟨order, sheet, done, executed⟩
      · exact Or.inl ⟨_, files, congrArg (·, files) refused, fun _ => rfl⟩
      · exact Or.inr (Or.inl
          ⟨cell, contents, order, sheet, rfl, done, congrArg (·, files) executed⟩)
  | save path =>
      rcases runOn_executeSave_cases shell path files with
        ⟨error, rest, failed, unchanged⟩ | ⟨target, rest, chosen, saved⟩
      · exact Or.inl ⟨_, rest, failed, unchanged⟩
      · exact Or.inr (Or.inr ⟨path, target, rest, rfl, chosen, saved⟩)
  | version path =>
      have unchanged : FileAccess.Steady Files →
          (runOn files (Sheet.savedVersion path)).2 = files :=
        fun steady => Sheet.savedVersion_keeps_files steady files path
      rw [execute, runOn_bind]
      cases (runOn files (Sheet.savedVersion path)).1 with
      | ok version => exact Or.inl ⟨_, _, rfl, unchanged⟩
      | error fault => exact Or.inl ⟨_, _, rfl, unchanged⟩
  | get cell => exact Or.inl ⟨_, files, rfl, fun _ => rfl⟩
  | contents cell => exact Or.inl ⟨_, files, rfl, fun _ => rfl⟩
  | cells => exact Or.inl ⟨_, files, rfl, fun _ => rfl⟩
  | dependents cell => exact Or.inl ⟨_, files, rfl, fun _ => rfl⟩
  | help => exact Or.inl ⟨_, files, rfl, fun _ => rfl⟩
  | quit => exact Or.inl ⟨_, files, rfl, fun _ => rfl⟩

variable {shell : Shell} {rules : NameRules} {version : String}

theorem reached_execute
    (reached : Sheet.Reached rules version shell.sheet) (command : Command) (files : Files) :
    Sheet.Reached rules version (runOn files (shell.execute command)).1.1.sheet := by
  rcases runOn_execute_cases shell command files with
    ⟨result, rest, same, _⟩ | ⟨cell, contents, order, sheet, _, done, executed⟩ |
      ⟨path, target, rest, _, _, saved⟩
  · rw [same]
    exact reached
  · rw [executed]
    exact reached.run_edit done
  · rw [saved]
    exact reached.saved

theorem reached_runLine
    (reached : Sheet.Reached rules version shell.sheet) (line : String) (files : Files) :
    Sheet.Reached rules version (runOn files (shell.runLine line)).1.1.sheet := by
  unfold runLine
  cases Command.ofLine line with
  | ok command => exact reached_execute reached command files
  | error error => exact reached

end

end Shell

end Reckon
