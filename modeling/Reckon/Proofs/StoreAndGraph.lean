import Reckon.Proofs.Coherence

/-!
Cells and graph after any edits: the pairs of the graph are what the stored formulas
mention, nothing depends on itself, and every stored cell is as the rules for names
and contents demand. So the dependents of a cell are the formulas that mention it.
-/

namespace Reckon

theorem DependencyGraph.pairwise_dependents (graph : DependencyGraph) (source : String) :
    (graph.dependents source).Pairwise (· < ·) := by
  have ascending :
      (graph.dependents source).Pairwise fun earlier later =>
        compare earlier later = .lt :=
    Std.ExtTreeSet.ordered_toList
  apply ascending.imp
  intro earlier later less
  exact compareOfLessAndEq_eq_lt.1 less

namespace Sheet

theorem pairwise_names (sheet : Sheet) : sheet.names.Pairwise (· < ·) := by
  have ascending : sheet.names.Pairwise fun earlier later => compare earlier later = .lt :=
    Std.ExtTreeMap.ordered_keys
  exact ascending.imp compareOfLessAndEq_eq_lt.1

theorem dependents_of_resolve_eq_ok
    {sheet : Sheet} {input name : String} (resolved : sheet.resolve input = .ok name) :
    sheet.dependents input = .ok (sheet.graph.dependents name) := by
  rw [dependents, resolved]
  rfl

namespace Coherent

variable {sheet : Sheet}

theorem mem_dependents_iff
    (coherent : sheet.Coherent) {source target : String} :
    target ∈ sheet.graph.dependents source ↔ sheet.Mentions target source := by
  rw [← DependencyGraph.contains_iff_mem_dependents]
  exact coherent.edges source target

/-- A text that is stored neither begins with an equals sign nor reads, without the
blanks around it, as a finite number. -/
theorem text_of_stored
    (coherent : sheet.Coherent) {name written : String} {cell : Cell}
    (stored : sheet.cells[name]? = some cell) (entered : cell.contents = .text written) :
    (∀ expression, written.toList ≠ '=' :: expression) ∧
      ∀ value, Number.read? (Text.trimBlank written.toList) = some value →
        ¬ Number.magnitude value < Number.infinite := by
  have proper := coherent.proper name cell.contents (storedContents?_eq_some stored)
  obtain ⟨unmarked, noNumber⟩ := proper.plain written entered
  refine ⟨unmarked, fun value reads finite => ?_⟩
  have number : Contents.number? written = some value :=
    Option.filter_eq_some_iff.2 ⟨reads, by simpa using finite⟩
  rw [noNumber] at number
  cases number

theorem contents_ne_of_stored
    (coherent : sheet.Coherent) {name : String} {cell : Cell}
    (stored : sheet.cells[name]? = some cell) :
    cell.contents ≠ .text "" := by
  intro nothing
  have something := coherent.nonempty name cell.contents (storedContents?_eq_some stored)
  rw [nothing] at something
  cases something

end Coherent

/-- After any edits of an empty sheet, carried out or refused, the graph has exactly
the pairs that the stored formulas mention and no cycle, stored cells have accepted
names and proper contents, and the dependents of a cell are, in ascending order, the
formula cells that mention it. -/
theorem afterEdits_graph_eq_mentions
    (rules : NameRules) (version : String) (edits : List (String × Option String)) :
    let sheet := afterEdits rules version edits
    (∀ source target,
      sheet.graph.contains source target = true ↔ sheet.Mentions target source) ∧
    sheet.graph.Acyclic ∧
    (∀ name cell, sheet.cells[name]? = some cell →
      cell.name = name ∧ isCellName name = true ∧ rules.accepts name = true ∧
      (∀ source ∈ cell.contents.names,
        isCellName source = true ∧ rules.accepts source = true) ∧
      cell.contents ≠ .text "" ∧
      (∀ written, cell.contents = .text written →
        (∀ expression, written.toList ≠ '=' :: expression) ∧
        ∀ value, Number.read? (Text.trimBlank written.toList) = some value →
          ¬ Number.magnitude value < Number.infinite) ∧
      (∀ value, cell.contents = .number value →
        Number.magnitude value < Number.infinite)) ∧
    (∀ input name, rules.canonical input = name → isCellName name = true →
      rules.accepts name = true →
      ∃ targets, sheet.dependents input = .ok targets ∧ targets.Pairwise (· < ·) ∧
        ∀ target, target ∈ targets ↔ sheet.Mentions target name) := by
  intro sheet
  have coherent : sheet.Coherent := coherent_afterEdits rules version edits
  have sameRules : sheet.rules = rules := rules_afterEdits rules version edits
  refine ⟨coherent.edges, coherent.acyclic, ?_, ?_⟩
  · intro name cell stored
    have storedContents := storedContents?_eq_some stored
    have accepts := coherent.accepted name cell.contents storedContents
    have proper := coherent.proper name cell.contents storedContents
    rw [sameRules] at accepts proper
    obtain ⟨wellFormed, accepted⟩ := NameRules.accepts_forCells.1 accepts
    exact ⟨coherent.keyed name cell stored, wellFormed, accepted, proper.named,
      coherent.contents_ne_of_stored stored,
      fun written entered => coherent.text_of_stored stored entered, proper.finite⟩
  · intro input name canonical wellFormed accepted
    have resolved : sheet.resolve input = .ok name := by
      rw [resolve_eq_ok, sameRules]
      exact ⟨canonical, NameRules.accepts_forCells.2 ⟨wellFormed, accepted⟩⟩
    exact ⟨sheet.graph.dependents name, dependents_of_resolve_eq_ok resolved,
      sheet.graph.pairwise_dependents name, fun target => coherent.mem_dependents_iff⟩

end Sheet

end Reckon
