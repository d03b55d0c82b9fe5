import Reckon.Proofs.Edits

/-!
The invariant of sheets. Whatever edits an empty sheet has seen, carried out or
refused, its graph has exactly the pairs that its formulas mention and no cycle,
its cells are stored under accepted names with proper contents, and every value is
that of the contents beside it.
-/

namespace Reckon

namespace Sheet

/-- The graph, the cells and the values of a sheet agree with each other. -/
structure Coherent (sheet : Sheet) : Prop where
  mirrored : sheet.graph.Mirrored
  edges : ∀ source target, sheet.graph.Edge source target ↔ sheet.Mentions target source
  acyclic : sheet.graph.Acyclic
  keyed : ∀ name (cell : Cell), sheet.cells[name]? = some cell → cell.name = name
  accepted : ∀ name contents, sheet.storedContents? name = some contents →
    sheet.rules.forCells.accepts name = true
  nonempty : ∀ name contents, sheet.storedContents? name = some contents →
    contents.isEmpty = false
  proper : ∀ name contents, sheet.storedContents? name = some contents →
    contents.Proper sheet.rules
  consistent : ∀ name, sheet.Consistent name

theorem coherent_empty (rules : NameRules) (version : String) :
    (empty rules version).Coherent where
  mirrored := DependencyGraph.mirrored_empty
  edges source target := by
    simp [empty, DependencyGraph.Edge, Mentions, storedContents?]
  acyclic := DependencyGraph.acyclic_empty
  keyed := by simp [empty]
  accepted := by simp [empty, storedContents?]
  nonempty := by simp [empty, storedContents?]
  proper := by simp [empty, storedContents?]
  consistent := by simp [empty, Consistent]

/-! ## What a planned edit leaves behind -/

section

variable {sheet : Sheet} {name other : String} {contents : Contents}
  {order : List String}

/-- A planned edit changes no more of the sheet than installing its contents does,
but for the cells and the note that there is a change. -/
theorem completed_eq :
    ∃ cells, sheet.completed name contents order =
      { sheet.install name contents with cells := cells, changed := true } := by
  obtain ⟨cells, equality⟩ := foldl_recompute_eq order (sheet.install name contents)
  refine ⟨cells, ?_⟩
  rw [completed, equality]

theorem graph_completed :
    (sheet.completed name contents order).graph =
      sheet.graph.replaceDependees name contents.names := by
  obtain ⟨cells, equality⟩ := completed_eq
  rw [equality]
  rfl

theorem rules_completed : (sheet.completed name contents order).rules = sheet.rules := by
  obtain ⟨cells, equality⟩ := completed_eq
  rw [equality]
  rfl

theorem version_completed :
    (sheet.completed name contents order).version = sheet.version := by
  obtain ⟨cells, equality⟩ := completed_eq
  rw [equality]
  rfl

theorem storedContents?_completed :
    (sheet.completed name contents order).storedContents? other =
      (sheet.install name contents).storedContents? other :=
  map_getElem?_foldl_recompute Cell.contents (fun _ _ => rfl) order _ other

/-- What is stored after a planned edit was entered by it or was stored before. -/
theorem stored_of_completed
    {entered : Contents}
    (stored : (sheet.completed name contents order).storedContents? other = some entered) :
    (other = name ∧ entered = contents ∧ contents.isEmpty = false) ∨
      sheet.storedContents? other = some entered := by
  rw [storedContents?_completed] at stored
  by_cases same : other = name
  · subst same
    rw [storedContents?_install_self] at stored
    split at stored
    · cases stored
    · next something =>
        injection stored with equality
        exact Or.inl ⟨rfl, equality.symm, Bool.eq_false_iff.2 something⟩
  · rw [storedContents?_install_of_ne same] at stored
    exact Or.inr stored

theorem mentions_completed {source : String} :
    (sheet.completed name contents order).Mentions other source ↔
      (sheet.install name contents).Mentions other source := by
  simp only [Mentions, storedContents?_completed]

theorem getElem?_completed_of_not_mem
    (unlisted : other ∉ order) (different : other ≠ name) :
    (sheet.completed name contents order).cells[other]? = sheet.cells[other]? :=
  (getElem?_foldl_recompute_of_not_mem unlisted _).trans (getElem?_install_of_ne different)

end

namespace Coherent

variable {sheet : Sheet} {name : String} {contents : Contents} {order : List String}

/-- The graph after an edit has the pairs that the formulas then mention. -/
theorem edges_install (coherent : sheet.Coherent) (source target : String) :
    (sheet.graph.replaceDependees name contents.names).Edge source target ↔
      (sheet.install name contents).Mentions target source := by
  by_cases same : target = name
  · subst same
    rw [DependencyGraph.edge_replaceDependees_self coherent.mirrored, mentions_install_self]
  · rw [DependencyGraph.edge_replaceDependees_of_ne coherent.mirrored same,
      mentions_install_of_ne same, coherent.edges]

theorem acyclic_of_orderIf
    (coherent : sheet.Coherent)
    (planned : orderIf sheet.graph name contents.names = .ok order) :
    (sheet.graph.replaceDependees name contents.names).Acyclic := by
  rw [DependencyGraph.acyclic_replaceDependees_iff coherent.mirrored coherent.acyclic,
    ← exists_orderIf_eq_ok_iff coherent.mirrored coherent.acyclic]
  exact ⟨order, planned⟩

theorem keyed_completed
    (coherent : sheet.Coherent) {key : String} {cell : Cell}
    (stored : (sheet.completed name contents order).cells[key]? = some cell) :
    cell.name = key := by
  have kept :
      ((sheet.completed name contents order).cells[key]?).map Cell.name =
        ((sheet.install name contents).cells[key]?).map Cell.name :=
    map_getElem?_foldl_recompute Cell.name (fun _ _ => rfl) order _ key
  rw [stored, Option.map_some] at kept
  obtain ⟨before, storedBefore, sameName⟩ := Option.map_eq_some_iff.1 kept.symm
  rw [← sameName]
  by_cases same : key = name
  · subst same
    rw [getElem?_install_self] at storedBefore
    split at storedBefore
    · cases storedBefore
    · injection storedBefore with equality
      subst equality
      cases found : sheet.cells[key]? with
      | none => rfl
      | some old => exact coherent.keyed key old found
  · rw [getElem?_install_of_ne same] at storedBefore
    exact coherent.keyed key before storedBefore

theorem consistent_completed
    (coherent : sheet.Coherent)
    (planned : orderIf sheet.graph name contents.names = .ok order) (other : String) :
    (sheet.completed name contents order).Consistent other := by
  obtain ⟨_, ordered, listed⟩ := orderIf_eq_ok coherent.mirrored planned
  have triggered : ∀ target source, (sheet.install name contents).Mentions target source →
      target ∈ dependentsIf sheet.graph name (sheet.graph.dependees name)
        contents.names source := by
    intro target source mentions
    rw [mem_dependentsIf_iff_contains coherent.mirrored]
    exact (coherent.edges_install source target).2 mentions
  have outside : ∀ key, key ∉ order → (sheet.install name contents).Consistent key := by
    intro key unlisted
    have different : key ≠ name := fun same => unlisted ((listed key).2 (Or.inl same))
    apply (coherent.consistent key).congr (getElem?_install_of_ne different)
    intro source mentions
    have unchanged : source ≠ name := by
      intro same
      subst same
      have mentionsAfter : (sheet.install source contents).Mentions key source :=
        (mentions_install_of_ne different).2 mentions
      have edge : (sheet.graph.replaceDependees source contents.names).Edge source key :=
        (coherent.edges_install source key).2 mentionsAfter
      exact unlisted ((listed key).2 (Or.inr (.single edge)))
    simp only [numberIn, getElem?_install_of_ne unchanged]
  exact consistent_foldl_recompute ordered triggered outside other

/-- A planned edit of an accepted name leaves a coherent sheet. -/
theorem completed
    (coherent : sheet.Coherent) (accepts : sheet.rules.forCells.accepts name = true)
    (proper : contents.Proper sheet.rules)
    (planned : orderIf sheet.graph name contents.names = .ok order) :
    (sheet.completed name contents order).Coherent where
  mirrored := by
    rw [graph_completed]
    exact coherent.mirrored.replaceDependees name contents.names
  edges source target := by
    rw [graph_completed, mentions_completed, coherent.edges_install]
  acyclic := by
    rw [graph_completed]
    exact coherent.acyclic_of_orderIf planned
  keyed key cell stored := coherent.keyed_completed stored
  accepted key entered stored := by
    rw [rules_completed]
    rcases stored_of_completed stored with ⟨same, _, _⟩ | before
    · rw [same]
      exact accepts
    · exact coherent.accepted key entered before
  nonempty key entered stored := by
    rcases stored_of_completed stored with ⟨_, same, something⟩ | before
    · rw [same]
      exact something
    · exact coherent.nonempty key entered before
  proper key entered stored := by
    rw [rules_completed]
    rcases stored_of_completed stored with ⟨_, same, _⟩ | before
    · rw [same]
      exact proper
    · exact coherent.proper key entered before
  consistent := coherent.consistent_completed planned

end Coherent

/-! ## Runs of edits -/

def edited (sheet : Sheet) (name : String) (input : Option String) : Sheet :=
  match (edit name input).run sheet with
  | .ok _ after => after
  | .error _ after => after

theorem edited_of_run_edit_eq_ok
    {sheet after : Sheet} {name : String} {input : Option String} {order : List String}
    (done : (edit name input).run sheet = .ok order after) :
    sheet.edited name input = after := by
  rw [edited, done]

def afterEdits
    (rules : NameRules) (version : String) (edits : List (String × Option String)) : Sheet :=
  edits.foldl (fun sheet request => sheet.edited request.1 request.2) (empty rules version)

theorem Coherent.edited
    {sheet : Sheet} (coherent : sheet.Coherent) (name : String) (input : Option String) :
    (sheet.edited name input).Coherent := by
  rcases run_edit_cases sheet name input with
    ⟨refusal, refused⟩ | ⟨text, canonical, contents, order, _, resolved, understood, planned, done⟩
  · rw [Sheet.edited, refused]
    exact coherent
  · have accepts : sheet.rules.forCells.accepts canonical = true :=
      (resolve_eq_ok.1 resolved).2
    have proper : contents.Proper sheet.rules :=
      Contents.proper_of_ofInput (understand_eq_ok.1 understood)
    rw [Sheet.edited, done]
    exact coherent.completed accepts proper (plan_eq_ok.1 planned)

theorem coherent_afterEdits
    (rules : NameRules) (version : String) (edits : List (String × Option String)) :
    (afterEdits rules version edits).Coherent :=
  List.foldlRecOn edits _ (coherent_empty rules version) fun _ coherent request _ =>
    coherent.edited request.1 request.2

theorem rules_edited (sheet : Sheet) (name : String) (input : Option String) :
    (sheet.edited name input).rules = sheet.rules := by
  rcases run_edit_cases sheet name input with
    ⟨refusal, refused⟩ | ⟨text, canonical, contents, order, _, _, _, _, done⟩
  · rw [Sheet.edited, refused]
  · rw [Sheet.edited, done]
    exact rules_completed

theorem rules_afterEdits
    (rules : NameRules) (version : String) (edits : List (String × Option String)) :
    (afterEdits rules version edits).rules = rules :=
  List.foldlRecOn (motive := fun sheet => sheet.rules = rules) edits _ rfl
    fun sheet same request _ => (rules_edited sheet request.1 request.2).trans same

end Sheet

end Reckon
