import Reckon.Proofs.FileRuns

/-!
Files that hold what was written to them. On a disk, a path under which a text was written
leads to the same place afterwards, and there the text is.
-/

namespace Reckon

namespace Disk

/-! ## A disk with a file more -/

/-- The disk on which a file stands in place of what was there, but with no folder on the way
to it made. -/
def withFile (disk : Disk) (location : List String) (bytes : ByteArray) : Disk :=
  ⟨disk.entries.insert location (.file bytes)⟩

section

variable {disk : Disk} {location : List String} {bytes : ByteArray}

private theorem withFile_holds_self (notRoot : location ≠ []) :
    Disk.entry? (disk.withFile location bytes) location = some (.file bytes) := by
  cases location with
  | nil => exact absurd rfl notRoot
  | cons first rest => exact Std.ExtTreeMap.getElem?_insert_self

private theorem withFile_holds_of_ne {other : List String} (different : location ≠ other) :
    Disk.entry? (disk.withFile location bytes) other = disk.entry? other := by
  cases other with
  | nil => rfl
  | cons first rest =>
      have distinct : ¬ compare location (first :: rest) = .eq := by
        rw [Std.LawfulEqCmp.compare_eq_iff_eq]
        exact different
      exact (Std.ExtTreeMap.getElem?_insert ..).trans (if_neg distinct)

private theorem withFile_keeps_folder
    (noFolder : disk.entry? location ≠ some .folder) {other : List String}
    (folder : disk.entry? other = some .folder) :
    Disk.entry? (disk.withFile location bytes) other = some .folder := by
  have different : location ≠ other := by
    intro same
    subst same
    exact noFolder folder
  rw [withFile_holds_of_ne different]
  exact folder

private theorem folder_of_enter_eq_ok
    {place next : List String} {name : String} (entered : disk.enter place name = .ok next) :
    disk.entry? place = some .folder := by
  rw [enter] at entered
  cases there : disk.entry? place with
  | none =>
      rw [there] at entered
      cases entered
  | some entry =>
      cases entry with
      | folder => rfl
      | file bytes =>
          rw [there] at entered
          cases entered

private theorem enter_withFile
    (noFolder : disk.entry? location ≠ some .folder) {place next : List String} {name : String}
    (entered : disk.enter place name = .ok next) :
    (disk.withFile location bytes).enter place name = .ok next := by
  have folder := folder_of_enter_eq_ok entered
  have folderAfter : Disk.entry? (disk.withFile location bytes) place = some .folder :=
    withFile_keeps_folder noFolder folder
  rw [enter, folder] at entered
  rw [enter, folderAfter]
  exact entered

private theorem foldlM_enter_withFile
    (noFolder : disk.entry? location ≠ some .folder) {names : List String}
    {place next : List String} (followed : names.foldlM disk.enter place = .ok next) :
    names.foldlM (disk.withFile location bytes).enter place = .ok next := by
  induction names generalizing place with
  | nil => exact followed
  | cons name rest inductionHypothesis =>
      rw [List.foldlM_cons] at followed ⊢
      obtain ⟨between, entered, followedRest⟩ := bind_eq_ok.1 followed
      exact bind_eq_ok.2
        ⟨between, enter_withFile noFolder entered, inductionHypothesis followedRest⟩

/-! ## Reading what was written -/

/-- A file is written where its path leads, which is no folder and not the root. -/
theorem target_eq_ok {path : Path} (found : disk.target path = .ok location) :
    disk.follow path.names = .ok location ∧ path.endsInSlash = false ∧
      disk.entry? location ≠ some .folder ∧ location ≠ [] := by
  unfold target at found
  split at found
  · cases found
  · next name last =>
      obtain ⟨folder, followed, found⟩ := bind_eq_ok.1 found
      split at found
      · cases found
      · cases found
      · split at found
        · cases found
        · next namesFile =>
            obtain ⟨place, entered, found⟩ := bind_eq_ok.1 found
            split at found
            · cases found
            · next noFolder =>
                injection found with same
                subst same
                simp only [Bool.or_eq_true, not_or] at namesFile
                have notRoot : place ≠ [] := by
                  intro root
                  subst root
                  exact noFolder rfl
                have leads : disk.follow path.names = .ok place := by
                  rw [follow, ← List.dropLast_append_getLast? name last, List.foldlM_append]
                  refine bind_eq_ok.2 ⟨folder, followed, ?_⟩
                  rw [List.foldlM_cons]
                  exact bind_eq_ok.2 ⟨place, entered, rfl⟩
                exact ⟨leads, Bool.eq_false_iff.2 namesFile.1.1, noFolder, notRoot⟩

private theorem fromUTF8?_toUTF8 (text : String) : String.fromUTF8? text.toUTF8 = some text := by
  simp only [String.fromUTF8?, String.toUTF8_eq_toByteArray, dif_pos text.isValidUTF8]
  rfl

theorem read_of_write_eq_ok
    {after : Disk} {path text : String} (written : disk.write path text = .ok after) :
    after.read path = .ok text := by
  obtain ⟨spelled, checked, written⟩ := bind_eq_ok.1 written
  obtain ⟨location, found, written⟩ := bind_eq_ok.1 written
  obtain ⟨followed, noSlash, noFolder, notRoot⟩ := target_eq_ok found
  have same : after = disk.withFile location text.toUTF8 := (Except.ok.inj written).symm
  have followedAfter : after.follow spelled.names = .ok location := by
    rw [same]
    exact foldlM_enter_withFile noFolder followed
  have foundAfter : after.find spelled = .ok (.file text.toUTF8) := by
    refine bind_eq_ok.2 ⟨location, followedAfter, ?_⟩
    rw [same, withFile_holds_self notRoot]
    dsimp only
    rw [noSlash]
    rfl
  refine bind_eq_ok.2 ⟨spelled, checked, bind_eq_ok.2 ⟨_, foundAfter, ?_⟩⟩
  dsimp only
  rw [fromUTF8?_toUTF8]

end

end Disk

/-- Files that are steady and in which a write that succeeds leaves its text under its path. -/
structure FileAccess.Keeping (Files : Type) [FileAccess (StateM Files)] : Prop where
  steady : FileAccess.Steady Files
  written (files : Files) (path text : String)
    (succeeded : (runOn files (FileAccess.write path text)).1 = .ok ()) :
    (runOn (runOn files (FileAccess.write path text)).2 (FileAccess.read path)).1 = .ok text

theorem Disk.keeping : FileAccess.Keeping Disk where
  steady := Disk.steady
  written disk path text succeeded := by
    simp only [runOn, FileAccess.write, StateT.run_bind, StateT.run_get, pure_bind] at succeeded ⊢
    cases written : disk.write path text with
    | ok after => exact Disk.read_of_write_eq_ok written
    | error fault =>
        rw [written] at succeeded
        cases succeeded

end Reckon
