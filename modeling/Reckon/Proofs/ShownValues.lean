import Reckon.Proofs.FailingCommands
import Reckon.Proofs.StoreAndGraph

/-!
What the shell shows of values. A name that is printed is a stored name, which is brought to
canonical form and looked up once more. Under rules that settle names it is its own
canonical form, so that each line shows the cell that was recalculated, or the stored cell
that is listed, and a line is printed for every one of them.
-/

namespace Reckon

namespace Sheet

section

variable {rules : NameRules} {version : String} {sheet after : Sheet} {name : String}

theorem mem_names : name ∈ sheet.names ↔ ∃ cell, sheet.cells[name]? = some cell := by
  rw [names, Std.ExtTreeMap.mem_keys, Std.ExtTreeMap.mem_iff_isSome_getElem?,
    Option.isSome_iff_exists]

/-- Where names are settled, a stored name is its own canonical form and is accepted. -/
theorem Reached.canonical_of_stored
    (settled : rules.Settled) (reached : Reached rules version sheet)
    {cell : Cell} (stored : sheet.cells[name]? = some cell) :
    rules.canonical name = name ∧ rules.forCells.accepts name = true := by
  have storedContents := storedContents?_eq_some stored
  have accepted := reached.coherent.accepted name _ storedContents
  rw [reached.rules_eq] at accepted
  exact ⟨settled.canonical_eq_self (reached.exists_written storedContents) accepted, accepted⟩

private theorem Reached.canonical_eq_self_of_mem_order
    (settled : rules.Settled) (reached : Reached rules version sheet)
    {entered : String} {input : Option String} {order : List String}
    (done : (edit entered input).run sheet = .ok order after) (listed : name ∈ order) :
    rules.canonical name = name ∧ rules.forCells.accepts name = true := by
  obtain ⟨canonical, accepted⟩ := reached.canonical_of_mem_order done listed
  exact ⟨settled.canonical_eq_self canonical accepted, accepted⟩

end

end Sheet

namespace Shell

/-- The line for a name: the cell that is stored under it with its value, or nothing after
the sign where none is stored. -/
def cellLine (sheet : Sheet) (name : String) : String :=
  match sheet.cells[name]? with
  | some cell => cell.name ++ " = " ++ cell.value.shown
  | none => name ++ " = "

section

variable {rules : NameRules} {version : String} {sheet : Sheet}

private theorem shownLine_eq_cellLine
    (coherent : sheet.Coherent) {name : String} (canonical : sheet.rules.canonical name = name) :
    shownLine sheet name = cellLine sheet name := by
  rw [shownLine, cellLine, canonical, Sheet.storedValue]
  cases stored : sheet.cells[name]? with
  | none => exact String.append_empty
  | some cell =>
      dsimp only
      rw [coherent.keyed name cell stored]

/-- The cells under names that are their own canonical forms are shown, each on its line. -/
theorem describeAll_of_canonical
    (reached : Sheet.Reached rules version sheet) {names : List String}
    (canonical : ∀ name ∈ names, rules.canonical name = name ∧ rules.forCells.accepts name = true) :
    describeAll sheet names = .ok ("\n".intercalate (names.map (cellLine sheet))) := by
  rw [← reached.rules_eq] at canonical
  rcases describeAll_cases sheet names with ⟨_, shown⟩ | ⟨name, listed, rejected, _⟩
  · rw [shown]
    congr 2
    exact List.map_congr_left fun name listed =>
      shownLine_eq_cellLine reached.coherent (canonical name listed).1
  · obtain ⟨same, accepted⟩ := canonical name listed
    rw [same, accepted] at rejected
    cases rejected

end

section

variable {Files : Type} [FileAccess (StateM Files)] {rules : NameRules} {version : String}
  {shell : Shell}

/-- A cell that can be set is set, and the recalculated cells are shown. -/
theorem runOn_execute_set
    (settled : rules.Settled) (reached : Sheet.Reached rules version shell.sheet)
    {cell contents : String} {order : List String} {after : Sheet}
    (done : (Sheet.edit cell (some contents)).run shell.sheet = .ok order after)
    (files : Files) :
    runOn files (shell.execute (.set cell contents)) =
      ((⟨after, shell.path⟩, .ok (.print ("\n".intercalate (order.map (cellLine after))))),
        files) := by
  have shown := describeAll_of_canonical (reached.run_edit done) fun name listed =>
    reached.canonical_eq_self_of_mem_order settled done listed
  rw [execute, executeSet, done]
  dsimp only
  rw [shown]
  rfl

private theorem runOn_execute_cells
    (settled : rules.Settled) (reached : Sheet.Reached rules version shell.sheet)
    (files : Files) :
    runOn files (shell.execute .cells) =
      ((shell, .ok (.print ("\n".intercalate
        (shell.sheet.names.map (cellLine shell.sheet))))), files) := by
  have shown := describeAll_of_canonical reached fun name listed => by
    obtain ⟨cell, stored⟩ := Sheet.mem_names.1 listed
    exact reached.canonical_of_stored settled stored
  rw [execute, shown]
  rfl

/-- Where names are settled, a cell that can be set is set and the command succeeds. It
prints a line for the cell and then for each cell that depends on it: the stored cell with
its value after the edit, or an empty value where the cell was cleared. No other cell
is changed. Listing the cells succeeds as well, and prints a line for each stored cell, in
order of the names. -/
theorem commands_show_stored_values
    (settled : rules.Settled) {sheet : Sheet} (reached : Sheet.Reached rules version sheet)
    (path : Option String) (files : Files) :
    let shell : Shell := ⟨sheet, path⟩
    (∀ cell contents order after, (Sheet.edit cell (some contents)).run sheet = .ok order after →
      runOn files (shell.execute (.set cell contents)) =
          ((⟨after, path⟩, .ok (.print ("\n".intercalate (order.map (cellLine after))))), files) ∧
        order.head? = some (rules.canonical cell) ∧ order.Nodup ∧
        (∀ name, name ∈ order ↔
          name = rules.canonical cell ∨ after.graph.DependsOn name (rules.canonical cell)) ∧
        (∀ name ∈ order, (∃ stored, after.cells[name]? = some stored ∧ stored.name = name) ∨
          (name = rules.canonical cell ∧ after.cells[name]? = none)) ∧
        ∀ name, name ∉ order → after.cells[name]? = sheet.cells[name]?) ∧
    runOn files (shell.execute .cells) =
        ((shell, .ok (.print ("\n".intercalate (sheet.names.map (cellLine sheet))))), files) ∧
      sheet.names.Pairwise (· < ·) ∧
        ∀ name, name ∈ sheet.names ↔
          ∃ stored, sheet.cells[name]? = some stored ∧ stored.name = name := by
  intro shell
  have reachedHere : Sheet.Reached rules version shell.sheet := reached
  have coherent := reached.coherent
  refine ⟨?_, runOn_execute_cells settled reachedHere files, sheet.pairwise_names, ?_⟩
  · intro cell contents order after done
    have coherentAfter := (reached.run_edit done).coherent
    obtain ⟨first, once, members⟩ := coherent.order_of_run_edit done
    rw [reached.rules_eq] at first members
    refine ⟨runOn_execute_set settled reachedHere done files, first, once, members, ?_, ?_⟩
    · intro name listed
      cases found : after.cells[name]? with
      | some stored => exact Or.inl ⟨stored, rfl, coherentAfter.keyed name stored found⟩
      | none =>
          refine Or.inr ⟨?_, rfl⟩
          by_contra different
          rw [← reached.rules_eq] at different
          obtain ⟨formula, stored⟩ := coherent.exists_formula_of_mem_order done listed different
          rw [Sheet.storedContents?, found] at stored
          cases stored
    · intro name unlisted
      exact coherent.getElem?_of_run_edit done unlisted
  · intro name
    rw [Sheet.mem_names]
    constructor
    · rintro ⟨cell, stored⟩
      exact ⟨cell, stored, coherent.keyed name cell stored⟩
    · rintro ⟨cell, stored, _⟩
      exact ⟨cell, stored⟩

end

/-- A cell that another one reads is cleared under its name in lower case, where upper case
is canonical. -/
theorem commands_show_stored_values_of_cleared_cell :
    let rules := Normalization.upper.rules
    let sheet := Sheet.afterEdits rules "v1"
      [("b1", some "=a1*2"), ("a1", some "4"), ("c1", some " x")]
    let shell : Shell := ⟨sheet, none⟩
    rules.Settled ∧ Sheet.Reached rules "v1" sheet ∧
      (∃ after, (Sheet.edit "a1" (some "")).run sheet = .ok ["A1", "B1"] after ∧
        runOn Disk.empty (shell.execute (.set "a1" "")) =
          ((⟨after, none⟩, .ok (.print "A1 = \nB1 = #REF!")), Disk.empty) ∧
        after.cells["C1"]? = sheet.cells["C1"]?) ∧
      runOn Disk.empty (shell.execute .cells) =
        ((shell, .ok (.print "A1 = 4\nB1 = 8\nC1 =  x")), Disk.empty) := by
  intro rules sheet shell
  have settled : rules.Settled := Normalization.settled .upper
  have reached : Sheet.Reached rules "v1" sheet := Sheet.reached_afterEdits rules "v1" _
  have recalculated :
      (sheet.set "a1" (some "")).toOption.map Prod.snd = some ["A1", "B1"] := by
    decide +kernel
  have cleared : (sheet.set "a1" (some "")).toOption.map (fun result =>
      "\n".intercalate (["A1", "B1"].map (cellLine result.1))) =
        some "A1 = \nB1 = #REF!" := by
    decide +kernel
  have lines : "\n".intercalate (sheet.names.map (cellLine sheet)) =
      "A1 = 4\nB1 = 8\nC1 =  x" := by
    decide +kernel
  obtain ⟨after, done⟩ := Sheet.exists_run_edit_eq_ok recalculated
  obtain ⟨set, listed, _⟩ := commands_show_stored_values settled reached none Disk.empty
  obtain ⟨executed, _, _, _, _, unchanged⟩ := set _ _ _ _ done
  rw [Sheet.set, done] at cleared
  have shown : "\n".intercalate (["A1", "B1"].map (cellLine after)) = "A1 = \nB1 = #REF!" :=
    Option.some.inj cleared
  rw [shown] at executed
  rw [lines] at listed
  exact ⟨settled, reached, ⟨after, done, executed, unchanged "C1" (by decide)⟩, listed⟩

end Shell

end Reckon
