import Reckon.Files.Disk
import Reckon.Session
import Reckon.Proofs.Replay

/-!
Computations with access to files. Files may be kept in any way, as long as reading leaves
them as they are and so does a write that fails. What is read as a sheet or a version is
then a matter of the text alone, and a sheet that a session opens is one that an empty
sheet can become.
-/

namespace Reckon

/-- What a computation results in, and the files after it. -/
def runOn {Files α : Type} (files : Files) (computation : StateM Files α) : α × Files :=
  computation.run files

section

variable {Files α β : Type}

@[simp]
theorem runOn_bind (files : Files) (first : StateM Files α) (next : α → StateM Files β) :
    runOn files (first >>= next) = runOn (runOn files first).2 (next (runOn files first).1) :=
  rfl

end

/-- Files that reading leaves as they are, and that a write which fails does not change. -/
structure FileAccess.Steady (Files : Type) [FileAccess (StateM Files)] : Prop where
  read (files : Files) (path : String) : (runOn files (FileAccess.read path)).2 = files
  write (files : Files) (path text : String) (fault : FileFault)
    (failed : (runOn files (FileAccess.write path text)).1 = .error fault) :
    (runOn files (FileAccess.write path text)).2 = files
  isPresent (files : Files) (path : String) :
    (runOn files (FileAccess.isPresent path)).2 = files

theorem Disk.steady : FileAccess.Steady Disk where
  read _ _ := rfl
  write disk path text fault failed := by
    simp only [runOn, FileAccess.write, StateT.run_bind, StateT.run_get, pure_bind] at failed ⊢
    cases written : disk.write path text with
    | ok after =>
        rw [written] at failed
        cases failed
    | error fault => rfl
  isPresent _ _ := rfl

section

variable {Files : Type} [FileAccess (StateM Files)] {files after : Files}

namespace Sheet

theorem runOn_readAs {α : Type} (files : Files) (path : String)
    (understand : String → Except StorageFault α) :
    runOn files (readAs path understand) =
      (match (runOn files (FileAccess.read path)).1 with
        | .ok text => (understand text).mapError fun fault => ⟨path, fault⟩
        | .error fault => .error ⟨path, .file fault⟩,
      (runOn files (FileAccess.read path)).2) := by
  rw [readAs, runOn_bind]
  cases (runOn files (FileAccess.read path)).1 with
  | ok text => rfl
  | error fault => rfl

theorem savedVersion_keeps_files
    (steady : FileAccess.Steady Files) (files : Files) (path : String) :
    (runOn files (savedVersion path)).2 = files := by
  rw [savedVersion, runOn_readAs]
  exact steady.read files path

theorem runOn_save (sheet : Sheet) (files : Files) (path : String) :
    runOn files (sheet.save path) =
      (match (runOn files (FileAccess.write path sheet.savedText)).1 with
        | .ok _ => .ok sheet.markSaved
        | .error fault => .error ⟨path, .file fault⟩,
      (runOn files (FileAccess.write path sheet.savedText)).2) := by
  rw [save, runOn_bind]
  cases (runOn files (FileAccess.write path sheet.savedText)).1 with
  | ok _ => rfl
  | error fault => rfl

/-- A sheet is written and has no change left to be saved, or writing fails. -/
theorem runOn_save_cases (sheet : Sheet) (files : Files) (path : String) :
    (∃ after, runOn files (sheet.save path) = (.ok sheet.markSaved, after)) ∨
      ∃ fault after, runOn files (sheet.save path) = (.error ⟨path, .file fault⟩, after) ∧
        (FileAccess.Steady Files → after = files) := by
  rw [runOn_save]
  cases written : (runOn files (FileAccess.write path sheet.savedText)).1 with
  | ok _ => exact Or.inl ⟨_, rfl⟩
  | error fault =>
      have unchanged : FileAccess.Steady Files →
          (runOn files (FileAccess.write path sheet.savedText)).2 = files :=
        fun steady => steady.write files path sheet.savedText fault written
      exact Or.inr ⟨fault, _, rfl, unchanged⟩

theorem ofText_eq_ok {rules : NameRules} {expected text : String} {sheet : Sheet} :
    ofText rules expected text = .ok sheet ↔
      ∃ file, SheetFile.ofText? text = some file ∧ ofFile rules expected file = .ok sheet := by
  rw [ofText]
  cases SheetFile.ofText? text with
  | none => simp
  | some file => simp

theorem exists_ofText_of_load
    {path : String} {rules : NameRules} {expected : String} {sheet : Sheet}
    (loaded : (runOn files (load path rules expected)).1 = .ok sheet) :
    ∃ text, (runOn files (FileAccess.read path)).1 = .ok text ∧
      ofText rules expected text = .ok sheet := by
  rw [load, runOn_readAs] at loaded
  cases read : (runOn files (FileAccess.read path)).1 with
  | error fault =>
      rw [read] at loaded
      cases loaded
  | ok text =>
      rw [read] at loaded
      exact ⟨text, rfl, mapError_eq_ok.1 loaded⟩

theorem reached_of_load
    {path : String} {rules : NameRules} {expected : String} {sheet : Sheet}
    (loaded : (runOn files (load path rules expected)).1 = .ok sheet) :
    Reached rules expected sheet := by
  obtain ⟨text, _, read⟩ := exists_ofText_of_load loaded
  obtain ⟨file, _, entered⟩ := ofText_eq_ok.1 read
  exact reached_of_ofFile_eq_ok entered

end Sheet

/-- A sheet that a session opens is an empty one, or loaded. -/
theorem Session.reached_of_openSheet
    {options : Options} {sheet : Sheet}
    (opened : (runOn files (openSheet options)).1 = .ok sheet) :
    Sheet.Reached options.normalization.rules options.version sheet := by
  have created : ∀ other, (Except.ok (Sheet.empty options.normalization.rules options.version) :
      Except StartError Sheet) = .ok other →
        Sheet.Reached options.normalization.rules options.version other := by
    intro other same
    injection same with same
    rw [← same]
    exact .empty
  unfold openSheet at opened
  cases named : options.file with
  | none =>
      rw [named] at opened
      exact created sheet opened
  | some path =>
      rw [named] at opened
      dsimp only at opened
      rw [runOn_bind] at opened
      by_cases present : (runOn files (FileAccess.isPresent path)).1 = true
      · rw [if_pos present, runOn_bind] at opened
        exact Sheet.reached_of_load (mapError_eq_ok.1 opened)
      · rw [if_neg present] at opened
        exact created sheet opened

end

end Reckon
