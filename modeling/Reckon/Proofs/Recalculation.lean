import Reckon.Proofs.Replay

/-!
Edits that are carried out. The recalculated cells are the edited one and all that
depend on it, in an order in which no cell stands before one that it reads; all
else in the sheet stays as it was.
-/

namespace Reckon

namespace Sheet

/-- In a coherent sheet every cell that depends on another one has a formula. -/
theorem Coherent.exists_formula_of_dependsOn
    {sheet : Sheet} (coherent : sheet.Coherent) {target source : String}
    (depends : sheet.graph.DependsOn target source) :
    ∃ formula, sheet.storedContents? target = some (.formula formula) := by
  obtain ⟨between, _, edge⟩ := Relation.TransGen.tail'_iff.1 depends
  obtain ⟨formula, stored, _⟩ := (coherent.edges between target).1 edge
  exact ⟨formula, stored⟩

section

variable {sheet : Sheet} {name : String} {contents : Contents} {order : List String}

/-- A cell that reads another one is recalculated after it. -/
theorem Coherent.idxOf_lt_idxOf_of_mentions
    (coherent : sheet.Coherent)
    (planned : orderIf sheet.graph name contents.names = .ok order)
    {source target : String} (listed : source ∈ order)
    (mentions : (sheet.completed name contents order).Mentions target source) :
    order.idxOf source < order.idxOf target := by
  obtain ⟨_, ordered, _⟩ := orderIf_eq_ok coherent.mirrored planned
  apply ordered.idxOf_lt_idxOf listed
  rw [triggers_dependentsIf coherent.mirrored, coherent.edges_install]
  exact mentions_completed.1 mentions

private theorem contains_completed_of_ne
    (mirrored : sheet.graph.Mirrored) {source target : String} (different : target ≠ name) :
    (sheet.completed name contents order).graph.contains source target =
      sheet.graph.contains source target := by
  rw [graph_completed, Bool.eq_iff_iff]
  exact DependencyGraph.edge_replaceDependees_of_ne mirrored different

end

section

variable {sheet after : Sheet} {name other : String} {input : Option String}
  {order : List String}

/-- The edited cell is listed first, and each cell that depends on it once. -/
theorem Coherent.order_of_run_edit
    (coherent : sheet.Coherent) (done : (edit name input).run sheet = .ok order after) :
    order.head? = some (sheet.rules.canonical name) ∧ order.Nodup ∧
      ∀ cell, cell ∈ order ↔ cell = sheet.rules.canonical name ∨
        after.graph.DependsOn cell (sheet.rules.canonical name) := by
  obtain ⟨contents, planned, same⟩ := completed_of_run_edit_eq_ok done
  obtain ⟨first, ordered, listed⟩ := orderIf_eq_ok coherent.mirrored planned
  refine ⟨first, ordered.nodup, fun cell => ?_⟩
  rw [listed, same, graph_completed]

theorem Coherent.getElem?_of_run_edit
    (coherent : sheet.Coherent) (done : (edit name input).run sheet = .ok order after)
    (unlisted : other ∉ order) : after.cells[other]? = sheet.cells[other]? := by
  have different : other ≠ sheet.rules.canonical name := by
    intro same
    rw [same] at unlisted
    exact unlisted (List.mem_of_head? (coherent.order_of_run_edit done).1)
  obtain ⟨contents, planned, same⟩ := completed_of_run_edit_eq_ok done
  rw [same]
  exact getElem?_completed_of_not_mem unlisted different

/-- The cells that are listed besides the edited one have formulas. -/
theorem Coherent.exists_formula_of_mem_order
    (coherent : sheet.Coherent) (done : (edit name input).run sheet = .ok order after)
    (listed : other ∈ order) (different : other ≠ sheet.rules.canonical name) :
    ∃ formula, after.storedContents? other = some (.formula formula) := by
  have coherentAfter : after.Coherent := by
    rw [← edited_of_run_edit_eq_ok done]
    exact coherent.edited name input
  have depends := ((coherent.order_of_run_edit done).2.2 other).1 listed
  exact coherentAfter.exists_formula_of_dependsOn (depends.resolve_left different)

end

/-- An edit of a sheet that can be reached, when it is carried out, recalculates the edited
cell first and then, each once and after all that it reads, the cells that depend on it in
the graph after the edit, which all have formulas. It changes no other contents, no other
values, no pairs with other targets and no version, and it notes that there is a change. -/
theorem order_and_frame_of_run_edit_eq_ok
    {rules : NameRules} {version : String} {before after : Sheet}
    (reached : Reached rules version before) {name : String} {input : Option String}
    {order : List String} (done : (edit name input).run before = .ok order after) :
    let canonical := rules.canonical name
    (order.head? = some canonical ∧ order.Nodup ∧
      (∀ cell, cell ∈ order ↔ cell = canonical ∨ after.graph.DependsOn cell canonical) ∧
      (∀ source target, after.Mentions target source → source ∈ order → target ∈ order →
        order.idxOf source < order.idxOf target)) ∧
    (∀ cell ∈ order, cell ≠ canonical →
      ∃ formula, after.storedContents? cell = some (.formula formula)) ∧
    (∀ other, other ≠ canonical →
      after.storedContents? other = before.storedContents? other) ∧
    (∀ other, other ∉ order → after.storedValue? other = before.storedValue? other) ∧
    (∀ source target, target ≠ canonical →
      after.graph.contains source target = before.graph.contains source target) ∧
    after.version = before.version ∧ after.changed = true := by
  have coherent : before.Coherent := reached.coherent
  obtain ⟨first, distinct, listed⟩ := coherent.order_of_run_edit done
  have formulas : ∀ cell ∈ order, cell ≠ before.rules.canonical name →
      ∃ formula, after.storedContents? cell = some (.formula formula) :=
    fun cell cellListed different =>
      coherent.exists_formula_of_mem_order done cellListed different
  have kept : ∀ other, other ∉ order → after.cells[other]? = before.cells[other]? :=
    fun other unlisted => coherent.getElem?_of_run_edit done unlisted
  obtain ⟨contents, planned, equality⟩ := completed_of_run_edit_eq_ok done
  rw [reached.rules_eq] at first listed formulas planned equality
  subst equality
  refine ⟨⟨first, distinct, listed, ?_⟩, formulas, ?_, ?_, ?_, version_completed, rfl⟩
  · intro source target mentions sourceListed _
    exact coherent.idxOf_lt_idxOf_of_mentions planned sourceListed mentions
  · intro other different
    rw [storedContents?_completed, storedContents?_install_of_ne different]
  · intro other unlisted
    rw [storedValue?, kept other unlisted, storedValue?]
  · intro source target different
    exact contains_completed_of_ne coherent.mirrored different

/-- A sheet that was loaded has no change to be saved, until a cell that others read is
edited. -/
theorem order_and_frame_of_loaded_cells :
    let file : SheetFile :=
      ⟨"v1", [⟨"C1", some "=B1+A1"⟩, ⟨"B1", some "=A1*3"⟩, ⟨"D1", some "unrelated"⟩]⟩
    ∃ before after, ofFile .free "v1" file = .ok before ∧ before.changed = false ∧
      (edit "A1" (some "2")).run before = .ok ["A1", "B1", "C1"] after ∧
      (∀ cell, cell ∈ ["A1", "B1", "C1"] ↔
        cell = "A1" ∨ after.graph.DependsOn cell "A1") ∧
      after.storedContents? "C1" = before.storedContents? "C1" ∧
      after.storedValue? "D1" = before.storedValue? "D1" ∧
      after.version = before.version ∧ after.changed = true := by
  intro file
  have loads : ((ofFile .free "v1" file).toOption.bind fun before =>
      (before.set "A1" (some "2")).toOption.map Prod.snd) = some ["A1", "B1", "C1"] := by
    decide +kernel
  obtain ⟨before, loaded, recalculated⟩ := Option.bind_eq_some_iff.1 loads
  rw [toOption_eq_some] at loaded
  obtain ⟨_, entered, _, saved⟩ := ofFile_eq_ok.1 loaded
  obtain ⟨after, done⟩ := exists_run_edit_eq_ok recalculated
  obtain ⟨⟨_, _, listed, _⟩, _, contents, values, _, version, changed⟩ :=
    order_and_frame_of_run_edit_eq_ok (reached_of_ofFile_eq_ok loaded) done
  have unchanged : before.changed = false := by
    rw [← saved]
    rfl
  exact ⟨before, after, loaded, unchanged, done, listed, contents "C1" (by decide),
    values "D1" (by decide), version, changed⟩

end Sheet

end Reckon
