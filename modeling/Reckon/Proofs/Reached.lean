import Reckon.Proofs.FromScratch
import Reckon.Proofs.GraphEquality

/-!
The sheets that an empty one can become, and what settles them: two such sheets with the
same rules for names, the same version and the same contents have the same cells, with
their values, and the same graph, whatever edits have led to them.
-/

namespace Reckon

namespace Sheet

/-- The sheets that an empty one can become: by edits, carried out or refused, and by
being saved, after which no change is left to be saved. -/
inductive Reached (rules : NameRules) (version : String) : Sheet → Prop where
  | empty : Reached rules version (.empty rules version)
  | edited {sheet : Sheet} (reached : Reached rules version sheet)
      (name : String) (input : Option String) : Reached rules version (sheet.edited name input)
  | saved {sheet : Sheet} (reached : Reached rules version sheet) :
      Reached rules version sheet.markSaved

theorem Coherent.markSaved {sheet : Sheet} (coherent : sheet.Coherent) :
    sheet.markSaved.Coherent where
  mirrored := coherent.mirrored
  edges := coherent.edges
  acyclic := coherent.acyclic
  keyed := coherent.keyed
  accepted := coherent.accepted
  nonempty := coherent.nonempty
  proper := coherent.proper
  consistent := coherent.consistent

/-- An edit leaves the graph as it is or replaces the dependees of one name. -/
theorem graph_edited (sheet : Sheet) (name : String) (input : Option String) :
    (sheet.edited name input).graph = sheet.graph ∨
      ∃ canonical sources,
        (sheet.edited name input).graph = sheet.graph.replaceDependees canonical sources := by
  rcases run_edit_cases sheet name input with
    ⟨refusal, refused⟩ | ⟨text, canonical, contents, order, _, _, _, _, done⟩
  · rw [edited, refused]
    exact Or.inl rfl
  · rw [edited, done]
    exact Or.inr ⟨canonical, contents.names, graph_completed⟩

theorem version_edited (sheet : Sheet) (name : String) (input : Option String) :
    (sheet.edited name input).version = sheet.version := by
  rcases run_edit_cases sheet name input with
    ⟨refusal, refused⟩ | ⟨text, canonical, contents, order, _, _, _, _, done⟩
  · rw [edited, refused]
  · rw [edited, done]
    exact version_completed

namespace Reached

variable {rules : NameRules} {version : String} {sheet other : Sheet}

theorem coherent (reached : Reached rules version sheet) : sheet.Coherent := by
  induction reached with
  | empty => exact coherent_empty rules version
  | edited _ name input coherent => exact coherent.edited name input
  | saved _ coherent => exact coherent.markSaved

theorem tidy (reached : Reached rules version sheet) : sheet.graph.Tidy := by
  induction reached with
  | empty => exact DependencyGraph.tidy_empty
  | @edited sheet _ name input tidy =>
      rcases graph_edited sheet name input with same | ⟨canonical, sources, replaced⟩
      · rw [same]
        exact tidy
      · rw [replaced]
        exact tidy.replaceDependees canonical sources
  | saved _ tidy => exact tidy

theorem rules_eq (reached : Reached rules version sheet) : sheet.rules = rules := by
  induction reached with
  | empty => rfl
  | edited _ name input same => rw [rules_edited, same]
  | saved _ same => exact same

theorem version_eq (reached : Reached rules version sheet) : sheet.version = version := by
  induction reached with
  | empty => rfl
  | edited _ name input same => rw [version_edited, same]
  | saved _ same => exact same

theorem resolve_eq_ok_iff
    {name canonical : String} (reached : Reached rules version sheet) :
    sheet.resolve name = .ok canonical ↔
      rules.canonical name = canonical ∧ rules.forCells.accepts canonical = true := by
  rw [resolve_eq_ok, reached.rules_eq]

theorem understand_eq_ok_iff
    {text : String} {contents : Contents} (reached : Reached rules version sheet) :
    sheet.understand text = .ok contents ↔
      Contents.ofInput rules.forCells text = .ok contents := by
  rw [understand_eq_ok, reached.rules_eq]

theorem run_edit
    {name : String} {input : Option String} {order : List String}
    (reached : Reached rules version sheet)
    (done : (edit name input).run sheet = .ok order other) : Reached rules version other :=
  edited_of_run_edit_eq_ok done ▸ reached.edited name input

end Reached

theorem reached_afterEdits
    (rules : NameRules) (version : String) (edits : List (String × Option String)) :
    Reached rules version (afterEdits rules version edits) :=
  List.foldlRecOn edits _ Reached.empty fun _ reached request _ =>
    reached.edited request.1 request.2

/-! ## Contents settle all -/

namespace Coherent

variable {sheet other : Sheet}

theorem storedValue?_eq
    (coherent : sheet.Coherent) (otherCoherent : other.Coherent)
    (same : sheet.storedContents? = other.storedContents?) (name : String) :
    sheet.storedValue? name = other.storedValue? name := by
  rw [coherent.storedValue?_eq_valueFromScratch coherent.wellFounded_reads,
    otherCoherent.storedValue?_eq_valueFromScratch otherCoherent.wellFounded_reads]
  simp only [same]

theorem cells_eq
    (coherent : sheet.Coherent) (otherCoherent : other.Coherent)
    (same : sheet.storedContents? = other.storedContents?) :
    sheet.cells = other.cells := by
  apply Std.ExtTreeMap.ext_getElem?
  intro name
  have sameContents := congrFun same name
  have sameValue := coherent.storedValue?_eq otherCoherent same name
  unfold storedContents? at sameContents
  unfold storedValue? at sameValue
  cases stored : sheet.cells[name]? with
  | none =>
      rw [stored] at sameContents
      exact (Option.map_eq_none_iff.1 sameContents.symm).symm
  | some cell =>
      rw [stored, Option.map_some] at sameContents sameValue
      obtain ⟨otherCell, otherStored, contents⟩ := Option.map_eq_some_iff.1 sameContents.symm
      rw [otherStored, Option.map_some] at sameValue
      injection sameValue with value
      have names : cell.name = otherCell.name :=
        (coherent.keyed name cell stored).trans
          (otherCoherent.keyed name otherCell otherStored).symm
      rw [otherStored]
      cases cell
      cases otherCell
      simp_all

theorem contains_iff
    (coherent : sheet.Coherent) (otherCoherent : other.Coherent)
    (same : sheet.storedContents? = other.storedContents?) (source target : String) :
    sheet.graph.contains source target = true ↔ other.graph.contains source target = true := by
  have sameMentions : sheet.Mentions target source ↔ other.Mentions target source := by
    simp only [Mentions, same]
  exact (coherent.edges source target).trans <|
    sameMentions.trans (otherCoherent.edges source target).symm

end Coherent

namespace Reached

variable {rules : NameRules} {version : String} {sheet other : Sheet}

theorem graph_eq
    (reached : Reached rules version sheet) (otherReached : Reached rules version other)
    (same : sheet.storedContents? = other.storedContents?) : sheet.graph = other.graph :=
  reached.tidy.eq_of_contains_eq otherReached.tidy
    (reached.coherent.contains_iff otherReached.coherent same)

/-- Sheets that are reached under the same rules and with the same version differ in no
more than their contents, but for the note that there is a change. -/
theorem markSaved_eq
    (reached : Reached rules version sheet) (otherReached : Reached rules version other)
    (same : sheet.storedContents? = other.storedContents?) :
    sheet.markSaved = other.markSaved := by
  have sameCells : sheet.cells = other.cells :=
    reached.coherent.cells_eq otherReached.coherent same
  have sameGraph : sheet.graph = other.graph := reached.graph_eq otherReached same
  have sameRules : sheet.rules = other.rules := reached.rules_eq.trans otherReached.rules_eq.symm
  have sameVersion : sheet.version = other.version :=
    reached.version_eq.trans otherReached.version_eq.symm
  rw [markSaved, markSaved, sameCells, sameGraph, sameRules, sameVersion]

end Reached

end Sheet

end Reckon
