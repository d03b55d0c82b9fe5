import Reckon.Proofs.FormulaText
import Reckon.Proofs.Replay
import Reckon.Proofs.SheetFileText
import Reckon.Text.Casing

/-!
Saving a sheet and loading what was saved. The text of each cell gives its contents
again, and entering these texts in the order of the names needs nothing that the sheet
itself does not have. So the loaded sheet is the saved one, with no change left to be
saved.
-/

namespace Reckon

namespace Sheet

/-! ## The cells of a sheet in order -/

theorem values_eq_map_toList (cells : Std.ExtTreeMap String Cell) :
    cells.values = cells.toList.map Prod.snd := by
  obtain ⟨inner⟩ := cells
  induction inner using Std.ExtDTreeMap.inductionOn with
  | _ tree =>
      change tree.inner.values = (Std.DTreeMap.Internal.Impl.Const.toList tree.inner).map Prod.snd
      rw [Std.DTreeMap.Internal.Impl.values_eq_map_snd,
        Std.DTreeMap.Internal.Impl.Const.toList_eq_toListModel_map, List.map_map]
      rfl

theorem mem_storedCells {sheet : Sheet} {cell : Cell} :
    cell ∈ sheet.storedCells ↔ ∃ name : String, sheet.cells[name]? = some cell := by
  rw [storedCells, values_eq_map_toList, List.mem_map]
  constructor
  · intro listed
    obtain ⟨⟨name, other⟩, inList, same⟩ := listed
    rw [← same]
    exact ⟨name, Std.ExtTreeMap.mem_toList_iff_getElem?_eq_some.1 inList⟩
  · intro stored
    obtain ⟨name, stored⟩ := stored
    exact ⟨(name, cell), Std.ExtTreeMap.mem_toList_iff_getElem?_eq_some.2 stored, rfl⟩

theorem Coherent.mem_storedCells_iff
    {sheet : Sheet} (coherent : sheet.Coherent) {cell : Cell} :
    cell ∈ sheet.storedCells ↔ sheet.cells[cell.name]? = some cell := by
  rw [mem_storedCells]
  constructor
  · intro stored
    obtain ⟨name, stored⟩ := stored
    rw [coherent.keyed name cell stored]
    exact stored
  · exact fun stored => ⟨cell.name, stored⟩

/-! ## What was entered -/

section

variable {rules : NameRules} {version : String} {sheet : Sheet}

/-- What a sheet holds was understood from a text that was entered. -/
theorem Reached.entered
    (reached : Reached rules version sheet) {name : String} {contents : Contents}
    (stored : sheet.storedContents? name = some contents) :
    ∃ input, Contents.ofInput rules.forCells input = .ok contents := by
  induction reached with
  | empty => simp [Sheet.empty, storedContents?] at stored
  | @edited sheet reached other input entered =>
      rcases run_edit_cases sheet other input with
        ⟨refusal, refused⟩ | ⟨text, canonical, given, order, _, _, understood, _, done⟩
      · rw [Sheet.edited, refused] at stored
        exact entered stored
      · rw [Sheet.edited, done] at stored
        rcases stored_of_completed stored with ⟨_, same, _⟩ | before
        · rw [same]
          exact ⟨text, reached.understand_eq_ok_iff.1 understood⟩
        · exact entered before
  | saved _ entered => exact entered stored

/-- Names that are stored or mentioned in a sheet are canonical ones. -/
structure Canonical (rules : NameRules) (sheet : Sheet) : Prop where
  stored : ∀ cell ∈ sheet.storedCells, rules.canonical cell.name = cell.name
  mentioned : ∀ cell ∈ sheet.storedCells, ∀ name ∈ cell.contents.names,
    rules.canonical name = name

theorem Reached.gives
    (reached : Reached rules version sheet) (canonical : sheet.Canonical rules)
    {cell : Cell} (listed : cell ∈ sheet.storedCells) :
    CellEntry.Gives rules ⟨cell.name, some cell.contents.inputText⟩ cell.contents := by
  have coherent := reached.coherent
  have stored : sheet.storedContents? cell.name = some cell.contents :=
    storedContents?_eq_some (coherent.mem_storedCells_iff.1 listed)
  obtain ⟨input, given⟩ := reached.entered stored
  refine ⟨?_, cell.contents.inputText, rfl,
    Contents.ofInput_inputText given (canonical.mentioned cell listed)⟩
  have accepted := coherent.accepted cell.name cell.contents stored
  rw [reached.rules_eq] at accepted
  rw [canonical.stored cell listed]
  exact accepted

theorem stored?_of_storedContents?
    (coherent : sheet.Coherent) {name : String} {contents : Contents}
    (stored : sheet.storedContents? name = some contents) :
    contents.stored? = some contents := by
  rw [Contents.stored?, if_neg (Bool.eq_false_iff.1 (coherent.nonempty name contents stored))]

/-- Entering the cells of a sheet into an empty one gives the same contents. -/
theorem Reached.exists_enter_ofSheet
    (reached : Reached rules version sheet) (canonical : sheet.Canonical rules) :
    ∃ after, (Sheet.empty rules version).enter (SheetFile.ofSheet sheet).cells = .ok after ∧
      after.storedContents? = sheet.storedContents? := by
  have coherent := reached.coherent
  apply exists_enter_empty_eq_ok coherent
  · intro entry listed
    obtain ⟨cell, inSheet, same⟩ := List.mem_map.1 listed
    subst same
    have stored : sheet.storedContents? cell.name = some cell.contents :=
      storedContents?_eq_some (coherent.mem_storedCells_iff.1 inSheet)
    refine ⟨cell.contents, reached.gives canonical inSheet, ?_⟩
    rw [canonical.stored cell inSheet, stored, stored?_of_storedContents? coherent stored]
  · intro name contents stored
    obtain ⟨cell, inCells, _⟩ := Option.map_eq_some_iff.1 stored
    have inSheet : cell ∈ sheet.storedCells := mem_storedCells.2 ⟨name, inCells⟩
    refine ⟨_, List.mem_map.2 ⟨cell, inSheet, rfl⟩, ?_⟩
    exact (canonical.stored cell inSheet).trans (coherent.keyed name cell inCells)

/-- The text of a sheet is loaded as the same sheet, with no change left to be saved. -/
theorem Reached.ofText_savedText
    (reached : Reached rules version sheet) (canonical : sheet.Canonical rules) :
    ofText rules sheet.version sheet.savedText = .ok sheet.markSaved := by
  obtain ⟨after, done, sameContents⟩ := reached.exists_enter_ofSheet canonical
  have loaded : ofFile rules sheet.version (SheetFile.ofSheet sheet) = .ok sheet.markSaved := by
    refine ofFile_eq_ok.2 ⟨rfl, after, ?_, ?_⟩
    · rw [← done, ← reached.version_eq]
      rfl
    · exact (Reached.empty.enter done).markSaved_eq reached sameContents
  rw [ofText, savedText, SheetFile.ofText?_write]
  exact loaded

/-- Saving a sheet and loading its text gives back its cells, with their contents and
values, its graph and its version, and no change is left to be saved; and saving the
loaded sheet writes the same text. -/
theorem exists_load_of_save
    (reached : Reached rules version sheet) (canonical : sheet.Canonical rules) :
    ∃ loaded, ofText rules sheet.version sheet.savedText = .ok loaded ∧
      loaded.cells = sheet.cells ∧ loaded.graph = sheet.graph ∧
        loaded.rules = sheet.rules ∧ loaded.version = sheet.version ∧
          loaded.changed = false ∧ loaded.savedText = sheet.savedText :=
  ⟨sheet.markSaved, reached.ofText_savedText canonical, rfl, rfl, rfl, rfl, rfl, rfl⟩

end

/-- A number, a text and a formula, entered under names in lower case where upper case is
canonical, are saved and loaded again. -/
theorem exists_load_of_save_of_upper_case :
    let rules : NameRules := ⟨Text.upper, fun _ => true⟩
    let sheet := afterEdits rules "v1"
      [("b1", some "=(a1+1)*2"), ("a1", some "0.1"), ("c1", some "a \"total\"")]
    sheet.names = ["A1", "B1", "C1"] ∧ Reached rules "v1" sheet ∧ sheet.Canonical rules ∧
      ∃ loaded, ofText rules sheet.version sheet.savedText = .ok loaded ∧
        loaded.cells = sheet.cells ∧ loaded.graph = sheet.graph ∧
          loaded.rules = sheet.rules ∧ loaded.version = sheet.version ∧
            loaded.changed = false ∧ loaded.savedText = sheet.savedText := by
  intro rules sheet
  have three : sheet.names = ["A1", "B1", "C1"] := by decide +kernel
  have reached : Reached rules "v1" sheet := reached_afterEdits rules "v1" _
  have canonical : sheet.Canonical rules := ⟨by decide +kernel, by decide +kernel⟩
  exact ⟨three, reached, canonical, exists_load_of_save reached canonical⟩

end Sheet

end Reckon
