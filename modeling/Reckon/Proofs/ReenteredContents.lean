import Reckon.Proofs.CommandLines
import Reckon.Proofs.ShownValues

/-!
Contents that are shown and entered again. The text that shows the contents of a cell
follows the name of the cell in a line, where it keeps all of its blanks but a line end at
its end, and gives the same contents. These take their own place, so that the edit is not
refused as circular and recalculates the values that were there.
-/

namespace Reckon

/-! ## Texts without blanks -/

theorem Token.Denotes.isLexeme {lexeme : List Char} {token : Token}
    (denotes : Denotes lexeme token) : Lexeme lexeme := by
  cases denotes with
  | mark bare =>
      obtain ⟨mark, spelled, listed, _⟩ := exists_mark_of_bare bare
      rw [spelled]
      exact .mark listed
  | name named => exact .name named
  | numeral formed => exact .numeral formed

private theorem Formula.solid_text
    {rules : NameRules} {text : String} {formula : Formula}
    (read : ofText rules text = .ok formula) :
    ∀ character ∈ formula.text.toList, Text.isBlank character = false := by
  intro character listed
  rw [Formula.text, String.toList_join, List.flatMap_map] at listed
  obtain ⟨token, inFormula, inText⟩ := List.mem_flatMap.1 listed
  exact (readable_of_ofText read token inFormula).denotes.isLexeme.solid inText

/-- Only contents that are a text can show a text with a blank in it. -/
theorem Contents.eq_text_or_solid_of_ofInput
    {rules : NameRules} {input : String} {contents : Contents}
    (given : ofInput rules.forCells input = .ok contents) :
    contents = .text contents.inputText ∨
      ∀ character ∈ contents.inputText.toList, Text.isBlank character = false := by
  rcases ofInput_eq_ok_cases given with
    ⟨value, _, same⟩ | ⟨expression, formula, _, _, parsed, same⟩ | ⟨_, _, same⟩
  · have finite := (proper_of_ofInput given).finite value same
    subst same
    exact Or.inr fun character listed => isBlank_of_mem_plainText finite listed
  · subst same
    rw [toList_inputText_formula]
    exact Or.inr (List.forall_mem_cons.2 ⟨by decide, Formula.solid_text parsed⟩)
  · subst same
    exact Or.inl rfl

/-- Contents that their text gives without the line ends at its end show a text that has none
there. -/
theorem Contents.entered_inputText
    {rules : NameRules} {contents : Contents}
    (given : ofInput rules.forCells (Command.entered contents.inputText) = .ok contents) :
    Command.entered contents.inputText = contents.inputText := by
  rcases eq_text_or_solid_of_ofInput given with isText | solid
  · rcases ofInput_eq_ok_cases given with
      ⟨value, _, same⟩ | ⟨_, formula, _, _, _, same⟩ | ⟨_, _, same⟩
    · rw [same] at isText
      cases isText
    · rw [same] at isText
      cases isText
    · exact (congrArg inputText same).symm
  · rw [Command.entered_eq_self_iff]
    intro last atEnd
    have notBlank := solid last (List.mem_of_getLast? atEnd)
    constructor
    · rintro rfl
      exact absurd notBlank (by decide)
    · rintro rfl
      exact absurd notBlank (by decide)

namespace Sheet

section

variable {rules : NameRules} {version : String} {sheet : Sheet} {name : String} {cell : Cell}

/-- A stored name is not empty and has no blanks. -/
theorem Coherent.solid_of_stored
    (coherent : sheet.Coherent) (stored : sheet.cells[name]? = some cell) :
    name ≠ "" ∧ ∀ character ∈ name.toList, Text.isBlank character = false := by
  have accepted := coherent.accepted name _ (storedContents?_eq_some stored)
  have named := (NameRules.accepts_forCells.1 accepted).1
  constructor
  · rintro rfl
    cases named
  · exact fun character listed =>
      isBlank_of_isNamePart (isNamePart_of_isCellName named character listed)

/-- The text of what is stored can be entered, and changes nothing. -/
theorem Reached.exists_run_edit_inputText
    (settled : rules.Settled) (reached : Reached rules version sheet)
    (stored : sheet.cells[name]? = some cell) :
    ∃ order, (edit name (some cell.contents.inputText)).run sheet =
      .ok order { sheet with changed := true } := by
  obtain ⟨canonical, accepted⟩ := reached.canonical_of_stored settled stored
  have held : sheet.storedContents name = cell.contents := by
    rw [storedContents, stored]
  have given := reached.ofInput_inputText_storedContents settled name
  rw [held] at given
  apply reached.exists_run_edit_eq_ok_of_install reached (canonical.symm ▸ accepted) given
  rw [canonical, storedContents?_install_eq_update, ← held,
    reached.coherent.stored?_storedContents, Function.update_eq_self]

/-- What can be entered into a cell without a change to the sheet gives what is stored. -/
theorem Reached.ofInput_of_unchanged
    (settled : rules.Settled) (reached : Reached rules version sheet)
    (stored : sheet.cells[name]? = some cell) {entered : String} {order : List String}
    (done : (edit name (some entered)).run sheet = .ok order { sheet with changed := true }) :
    Contents.ofInput rules.forCells entered = .ok cell.contents := by
  obtain ⟨text, contents, written, _, given, update⟩ := reached.update_of_run_edit done
  cases written
  have same : sheet.storedContents? name = contents.stored? := by
    have atName := congrFun update name
    rwa [(reached.canonical_of_stored settled stored).1, Function.update_self] at atName
  rw [storedContents?_eq_some stored, Contents.stored?] at same
  split at same
  · cases same
  · injection same with same
    rw [same]
    exact given

end

end Sheet

namespace Shell

section

variable {Files : Type} [FileAccess (StateM Files)] {rules : NameRules} {version : String}
  {shell : Shell} {name : String} {cell : Cell}

/-- The contents of a stored cell are shown by their text. -/
theorem runOn_runLine_contents
    (settled : rules.Settled) (reached : Sheet.Reached rules version shell.sheet)
    (stored : shell.sheet.cells[name]? = some cell) (files : Files) :
    runOn files (shell.runLine ("contents " ++ name)) =
      ((shell, .ok (.print cell.contents.inputText)), files) := by
  have coherent := reached.coherent
  obtain ⟨something, solid⟩ := coherent.solid_of_stored stored
  have resolved : shell.sheet.resolve name = .ok name :=
    reached.resolve_eq_ok_iff.2 (reached.canonical_of_stored settled stored)
  have nonempty := coherent.nonempty name _ (Sheet.storedContents?_eq_some stored)
  have held : shell.sheet.storedContents name = cell.contents := by
    rw [Sheet.storedContents, stored]
  have shown : (shell.sheet.contents name).map showContents = .ok cell.contents.inputText := by
    rw [Sheet.contents, resolved, Except.map, Except.map, held, showContents,
      if_neg (Bool.eq_false_iff.1 nonempty)]
  rw [runLine, Command.ofLine_contents something solid]
  dsimp only
  rw [execute, shown]
  rfl

/-- The text after the name of a stored cell is entered without line ends at its end. -/
theorem runOn_runLine_set
    (coherent : shell.sheet.Coherent) (stored : shell.sheet.cells[name]? = some cell)
    (text : String) (files : Files) :
    runOn files (shell.runLine ("set " ++ name ++ " " ++ text)) =
      runOn files (shell.execute (.set name (Command.entered text))) := by
  obtain ⟨something, solid⟩ := coherent.solid_of_stored stored
  rw [runLine, Command.ofLine_set something solid]

/-- A cell that is set without a change to the sheet is given what was stored. -/
theorem ofInput_of_runOn_execute_set
    (settled : rules.Settled) (reached : Sheet.Reached rules version shell.sheet)
    (stored : shell.sheet.cells[name]? = some cell) {entered report : String} {files : Files}
    (executed : runOn files (shell.execute (.set name entered)) =
      ((⟨{ shell.sheet with changed := true }, shell.path⟩, .ok (.print report)), files)) :
    Contents.ofInput rules.forCells entered = .ok cell.contents := by
  rcases executeSet_cases shell name entered with ⟨refusal, refused⟩ | ⟨order, after, done, set⟩
  · rw [execute, refused] at executed
    injection executed with executed
    injection executed with _ failed
    cases failed
  · rw [execute, set] at executed
    injection executed with executed
    injection executed with executed
    injection executed with same
    subst same
    exact reached.ofInput_of_unchanged settled stored done

/-- The text that shows the contents of a stored cell can be entered again, in a line after
the name of the cell, and all cells stay as they were, with their values, and so does the
graph, exactly if the text does not end in a line end. All blanks of the text are kept. -/
theorem reentered_contents_keep_sheet_iff
    (settled : rules.Settled) {sheet : Sheet} (reached : Sheet.Reached rules version sheet)
    {name : String} {cell : Cell} (stored : sheet.cells[name]? = some cell)
    (path : Option String) (files : Files) :
    let shell : Shell := ⟨sheet, path⟩
    ∃ text, runOn files (shell.runLine ("contents " ++ name)) =
        ((shell, .ok (.print text)), files) ∧
      text = cell.contents.inputText ∧
      ((∃ report, runOn files (shell.runLine ("set " ++ name ++ " " ++ text)) =
          ((⟨{ sheet with changed := true }, path⟩, .ok (.print report)), files)) ↔
        ∀ last ∈ text.toList.getLast?, last ≠ '\r' ∧ last ≠ '\n') := by
  intro shell
  have reachedHere : Sheet.Reached rules version shell.sheet := reached
  have storedHere : shell.sheet.cells[name]? = some cell := stored
  refine ⟨_, runOn_runLine_contents settled reachedHere storedHere files, rfl, ?_⟩
  rw [← Command.entered_eq_self_iff, runOn_runLine_set reachedHere.coherent storedHere]
  constructor
  · rintro ⟨report, executed⟩
    have given := ofInput_of_runOn_execute_set settled reachedHere storedHere executed
    exact Contents.entered_inputText given
  · intro kept
    obtain ⟨order, done⟩ := reachedHere.exists_run_edit_inputText settled storedHere
    rw [kept]
    exact ⟨_, runOn_execute_set settled reachedHere done files⟩

end

/-- A text with blanks at both ends, which a formula reads, is entered again, but a text that
ends in a line end is not: it is cut short. -/
theorem reentered_contents_keep_sheet_of_blanks :
    let rules := Normalization.upper.rules
    let sheet := Sheet.afterEdits rules "v1"
      [("b1", some "=a1*2"), ("a1", some "\u2003x  y\t"), ("c1", some "x\n")]
    let shell : Shell := ⟨sheet, none⟩
    let after : Shell := ⟨{ sheet with changed := true }, none⟩
    rules.Settled ∧ Sheet.Reached rules "v1" sheet ∧
      sheet.cells["A1"]? = some ⟨"A1", .text "\u2003x  y\t", .text "\u2003x  y\t"⟩ ∧
      (∃ report, runOn Disk.empty (shell.runLine "set A1 \u2003x  y\t") =
        ((after, .ok (.print report)), Disk.empty)) ∧
      sheet.cells["C1"]? = some ⟨"C1", .text "x\n", .text "x\n"⟩ ∧
      ¬ ∃ report, runOn Disk.empty (shell.runLine "set C1 x\n") =
        ((after, .ok (.print report)), Disk.empty) := by
  intro rules sheet shell after
  have settled : rules.Settled := Normalization.settled .upper
  have reached : Sheet.Reached rules "v1" sheet := Sheet.reached_afterEdits rules "v1" _
  have blanks : sheet.cells["A1"]? =
      some ⟨"A1", .text "\u2003x  y\t", .text "\u2003x  y\t"⟩ := by
    decide +kernel
  have cut : sheet.cells["C1"]? = some ⟨"C1", .text "x\n", .text "x\n"⟩ := by
    decide +kernel
  obtain ⟨text, _, isText, kept⟩ :=
    reentered_contents_keep_sheet_iff settled reached blanks none Disk.empty
  obtain ⟨other, _, isOther, lost⟩ :=
    reentered_contents_keep_sheet_iff settled reached cut none Disk.empty
  subst isText isOther
  refine ⟨settled, reached, blanks, kept.2 ?_, cut, fun executed => ?_⟩
  · exact Command.entered_eq_self_iff.1 (by decide +kernel)
  · exact absurd (Command.entered_eq_self_iff.2 (lost.1 executed)) (by decide +kernel)

end Shell

end Reckon
