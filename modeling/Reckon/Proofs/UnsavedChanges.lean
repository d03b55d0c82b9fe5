import Reckon.Proofs.Commands
import Reckon.Proofs.WrittenFiles

/-!
What is left to be saved. However commands that set cells, commands that save and commands
that fail follow each other, a sheet knows whether it was changed after it was last saved;
and while it was not, the file under the remembered path holds its text.
-/

namespace Reckon

/-! ## Sheets at the start -/

section

variable {Files : Type} [FileAccess (StateM Files)]

variable (Files) in
/-- The sheets with which a shell starts: empty ones, and those that were loaded. -/
inductive Sheet.Opened : Sheet → Prop where
  | fresh (rules : NameRules) (version : String) : Sheet.Opened (.empty rules version)
  | loaded {files : Files} {path expected : String} {rules : NameRules} {sheet : Sheet}
      (loaded : (runOn files (Sheet.load path rules expected)).1 = .ok sheet) :
      Sheet.Opened sheet

private theorem Sheet.Opened.changed_eq_false
    {sheet : Sheet} (opened : sheet.Opened Files) : sheet.changed = false := by
  cases opened with
  | fresh rules version => rfl
  | loaded loaded =>
      obtain ⟨text, _, read⟩ := Sheet.exists_ofText_of_load loaded
      obtain ⟨file, _, entered⟩ := Sheet.ofText_eq_ok.1 read
      obtain ⟨_, after, _, saved⟩ := Sheet.ofFile_eq_ok.1 entered
      rw [← saved]
      rfl

end

namespace Shell

/-! ## Commands and what they leave unsaved -/

/-- What a command does about changes that are not saved: it makes one, or saves them all,
or neither. -/
inductive Event where
  | edited
  | saved
  | neither
deriving DecidableEq

def Event.Unsaved (events : List Event) : Prop :=
  ∃ earlier later, events = earlier ++ .edited :: later ∧ .saved ∉ later

private theorem Event.unsaved_cons_iff (event : Event) (rest : List Event) :
    Unsaved (event :: rest) ↔ (event = .edited ∧ .saved ∉ rest) ∨ Unsaved rest := by
  constructor
  · rintro ⟨earlier, later, split, notSaved⟩
    cases earlier with
    | nil =>
        injection split with isEdit same
        subst same
        exact Or.inl ⟨isEdit, notSaved⟩
    | cons first others =>
        injection split with _ split
        exact Or.inr ⟨others, later, split, notSaved⟩
  · rintro (⟨isEdit, notSaved⟩ | ⟨earlier, later, split, notSaved⟩)
    · exact ⟨[], rest, congrArg (· :: rest) isEdit, notSaved⟩
    · exact ⟨event :: earlier, later, congrArg (event :: ·) split, notSaved⟩

private theorem Event.not_unsaved_iff (events : List Event) :
    ¬ Unsaved events ↔
      ∀ earlier later, events = earlier ++ .edited :: later → .saved ∈ later := by
  simp only [Unsaved, not_exists, not_and, not_not]

section

variable {Files : Type} [FileAccess (StateM Files)]

/-- A cell is set once the sheet has accepted the edit, even where the command then fails
since a value can not be shown. -/
def event (shell : Shell) (files : Files) (command : Command) : Event :=
  match command with
  | .set cell contents =>
      match (Sheet.edit cell (some contents)).run shell.sheet with
      | .ok _ _ => .edited
      | .error _ _ => .neither
  | .save path =>
      match (runOn files (shell.executeSave path)).1.2 with
      | .ok _ => .saved
      | .error _ => .neither
  | _ => .neither

/-- The shell and the files after a command, whatever the command results in. -/
def afterCommand (shell : Shell) (files : Files) (command : Command) : Shell × Files :=
  ((runOn files (shell.execute command)).1.1, (runOn files (shell.execute command)).2)

def afterCommands (shell : Shell) (files : Files) : List Command → Shell × Files
  | [] => (shell, files)
  | command :: rest =>
      afterCommands (shell.afterCommand files command).1 (shell.afterCommand files command).2 rest

def events (shell : Shell) (files : Files) : List Command → List Event
  | [] => []
  | command :: rest =>
      shell.event files command ::
        events (shell.afterCommand files command).1 (shell.afterCommand files command).2 rest

def HoldsSaved (shell : Shell) (files : Files) : Prop :=
  ∃ path, shell.path = some path ∧
    (runOn files (FileAccess.read path)).1 = .ok shell.sheet.savedText

/-! ## One command -/

private theorem set_leaves (shell : Shell) (files : Files) (cell contents : String) :
    (shell.event files (.set cell contents) = .neither ∧
      shell.afterCommand files (.set cell contents) = (shell, files)) ∨
      (shell.event files (.set cell contents) = .edited ∧
        (shell.afterCommand files (.set cell contents)).1.sheet.changed = true) := by
  have executed : shell.afterCommand files (.set cell contents) =
      ((shell.executeSet cell contents).1, files) := rfl
  rw [executed, executeSet, event]
  rcases Sheet.run_edit_cases shell.sheet cell (some contents) with
    ⟨refusal, refused⟩ | ⟨_, _, _, _, _, _, _, _, done⟩
  · rw [refused]
    exact Or.inl ⟨rfl, rfl⟩
  · rw [done]
    exact Or.inr ⟨rfl, rfl⟩

private theorem save_leaves
    (keeping : FileAccess.Keeping Files) (shell : Shell) (files : Files) (path : Option String) :
    (shell.event files (.save path) = .neither ∧
      shell.afterCommand files (.save path) = (shell, files)) ∨
      (shell.event files (.save path) = .saved ∧
        (shell.afterCommand files (.save path)).1.sheet.changed = false ∧
          (shell.afterCommand files (.save path)).1.HoldsSaved
            (shell.afterCommand files (.save path)).2) := by
  have executed : shell.afterCommand files (.save path) =
      ((runOn files (shell.executeSave path)).1.1,
        (runOn files (shell.executeSave path)).2) := rfl
  rw [executed, event, executeSave]
  cases chosen : path <|> shell.path with
  | none => exact Or.inl ⟨rfl, rfl⟩
  | some target =>
      dsimp only
      rw [runOn_bind, Sheet.runOn_save]
      cases written : (runOn files (FileAccess.write target shell.sheet.savedText)).1 with
      | ok _ =>
          exact Or.inr ⟨rfl, rfl, target, rfl, keeping.written files target _ written⟩
      | error fault =>
          have unchanged := keeping.steady.write files target _ fault written
          rw [unchanged]
          exact Or.inl ⟨rfl, rfl⟩

/-- A command leaves the shell and the files as they are, or a changed sheet, or one that is
saved under the remembered path. -/
theorem command_leaves
    (keeping : FileAccess.Keeping Files) (shell : Shell) (files : Files) (command : Command) :
    (shell.event files command = .neither ∧ shell.afterCommand files command = (shell, files)) ∨
      (shell.event files command = .edited ∧
        (shell.afterCommand files command).1.sheet.changed = true) ∨
        (shell.event files command = .saved ∧
          (shell.afterCommand files command).1.sheet.changed = false ∧
            (shell.afterCommand files command).1.HoldsSaved
              (shell.afterCommand files command).2) := by
  cases command with
  | set cell contents => exact (set_leaves shell files cell contents).imp_right Or.inl
  | save path => exact (save_leaves keeping shell files path).imp_right Or.inr
  | version path =>
      refine Or.inl ⟨rfl, ?_⟩
      have unchanged := Sheet.savedVersion_keeps_files keeping.steady files path
      rw [afterCommand, execute, runOn_bind, unchanged]
      cases (runOn files (Sheet.savedVersion path)).1 with
      | ok version => rfl
      | error fault => rfl
  | get cell => exact Or.inl ⟨rfl, rfl⟩
  | contents cell => exact Or.inl ⟨rfl, rfl⟩
  | cells => exact Or.inl ⟨rfl, rfl⟩
  | dependents cell => exact Or.inl ⟨rfl, rfl⟩
  | help => exact Or.inl ⟨rfl, rfl⟩
  | quit => exact Or.inl ⟨rfl, rfl⟩

/-! ## Commands in a row -/

private theorem changed_afterCommands_iff
    (keeping : FileAccess.Keeping Files) (shell : Shell) (files : Files)
    (commands : List Command) :
    (shell.afterCommands files commands).1.sheet.changed = true ↔
      Event.Unsaved (shell.events files commands) ∨
        (shell.sheet.changed = true ∧ .saved ∉ shell.events files commands) := by
  induction commands generalizing shell files with
  | nil => simp [afterCommands, events, Event.Unsaved]
  | cons command rest inductionHypothesis =>
      rw [afterCommands, inductionHypothesis, events, Event.unsaved_cons_iff]
      rcases command_leaves keeping shell files command with
        ⟨event, same⟩ | ⟨event, changed⟩ | ⟨event, saved, _⟩
      · rw [event, same]
        simp
      · rw [event, changed]
        simp only [true_and, List.mem_cons, reduceCtorEq, false_or]
        tauto
      · rw [event, saved]
        simp

/-- A shell whose sheet is saved where it is not changed stays so, and becomes so with the
first command that saves. -/
theorem holdsSaved_afterCommands
    (keeping : FileAccess.Keeping Files) {shell : Shell} {files : Files}
    {commands : List Command}
    (saved : (shell.sheet.changed = false → shell.HoldsSaved files) ∨
      .saved ∈ shell.events files commands)
    (unchanged : (shell.afterCommands files commands).1.sheet.changed = false) :
    (shell.afterCommands files commands).1.HoldsSaved
      (shell.afterCommands files commands).2 := by
  induction commands generalizing shell files with
  | nil => exact saved.elim (· unchanged) (absurd · List.not_mem_nil)
  | cons command rest inductionHypothesis =>
      refine inductionHypothesis ?_ unchanged
      rw [events, List.mem_cons] at saved
      rcases command_leaves keeping shell files command with
        ⟨event, same⟩ | ⟨event, changed⟩ | ⟨event, _, holds⟩
      · rw [event] at saved
        rw [same] at saved ⊢
        exact saved.imp_right (·.resolve_left nofun)
      · exact Or.inl fun unchanged => absurd (changed.symm.trans unchanged) nofun
      · exact Or.inl fun _ => holds

/-- The flag of a sheet and the path that a shell remembers do not lie. After any commands,
the sheet is unchanged exactly if a save came after every edit; and once a save has
succeeded, the file under the remembered path holds the text of the sheet as long as the
sheet is unchanged, even if saves to other paths have failed since. -/
theorem changed_flag_and_saved_file
    (keeping : FileAccess.Keeping Files) {shell : Shell} (opened : shell.sheet.Opened Files)
    (files : Files) (commands : List Command) :
    let final := shell.afterCommands files commands
    let events := shell.events files commands
    (final.1.sheet.changed = false ↔
      ∀ earlier later, events = earlier ++ .edited :: later → .saved ∈ later) ∧
      (.saved ∈ events → final.1.sheet.changed = false → final.1.HoldsSaved final.2) := by
  intro final events
  have atStart : ¬ shell.sheet.changed = true := by
    rw [opened.changed_eq_false]
    exact Bool.false_ne_true
  have changed : final.1.sheet.changed = true ↔ Event.Unsaved events := by
    rw [changed_afterCommands_iff keeping]
    exact or_iff_left fun unsaved => atStart unsaved.1
  constructor
  · rw [← Event.not_unsaved_iff, ← changed, Bool.not_eq_true]
  · exact fun saved unchanged => holdsSaved_afterCommands keeping (Or.inr saved) unchanged

/-- Between two saves stand an edit that is refused, a save that fails and an edit that is
carried out; after them another save fails. -/
theorem changed_flag_and_saved_file_of_failing_saves :
    let shell : Shell := ⟨.empty Normalization.upper.rules "default", none⟩
    let commands : List Command :=
      [.set "a1" "5", .save (some "s.json"), .set "a1" "=a1", .save (some "gone/s.json"),
        .set "b1" "=a1*2", .save none, .save (some "gone/s.json")]
    shell.events Disk.empty commands =
        [.edited, .saved, .neither, .neither, .edited, .saved, .neither] ∧
      (shell.afterCommands Disk.empty commands).1.sheet.changed = false ∧
        (shell.afterCommands Disk.empty commands).1.HoldsSaved
          (shell.afterCommands Disk.empty commands).2 := by
  intro shell commands
  have events : shell.events Disk.empty commands =
      [.edited, .saved, .neither, .neither, .edited, .saved, .neither] := by decide +kernel
  have saved : .saved ∈ shell.events Disk.empty commands := by
    rw [events]
    exact List.mem_cons_of_mem _ List.mem_cons_self
  have unchanged : (shell.afterCommands Disk.empty commands).1.sheet.changed = false := by
    decide +kernel
  have opened : shell.sheet.Opened Disk := .fresh _ _
  have law := changed_flag_and_saved_file Disk.keeping opened Disk.empty commands
  exact ⟨events, unchanged, law.2 saved unchanged⟩

end

end Shell

end Reckon
