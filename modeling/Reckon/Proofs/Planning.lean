import Reckon.Proofs.GraphEdits
import Reckon.Proofs.Traversal

/-!
Planning an edit. In a graph without cycles, new sources of a name close a cycle
exactly if one of them is the name or depends on it, and only then no order of
recalculation is found.
-/

namespace Reckon

open Relation

namespace DependencyGraph

def Edge (graph : DependencyGraph) (source target : String) : Prop :=
  graph.contains source target = true

/-- The target depends on the source, directly or through others. -/
def DependsOn (graph : DependencyGraph) (target source : String) : Prop :=
  TransGen graph.Edge source target

def Acyclic (graph : DependencyGraph) : Prop :=
  ∀ name, ¬ graph.DependsOn name name

/-- If the name depended on the sources, it would depend on itself. -/
def Closes (graph : DependencyGraph) (name : String) (sources : List String) : Prop :=
  ∃ source ∈ sources, source = name ∨ graph.DependsOn source name

theorem acyclic_empty : empty.Acyclic := by
  intro name cycle
  obtain ⟨source, edge, _⟩ := TransGen.head'_iff.1 cycle
  simp [Edge] at edge

variable {graph : DependencyGraph} {name : String} {sources : List String}

theorem edge_replaceDependees_self
    (mirrored : graph.Mirrored) {source : String} :
    (graph.replaceDependees name sources).Edge source name ↔ source ∈ sources := by
  rw [Edge, contains_replaceDependees mirrored]
  simp

theorem edge_replaceDependees_of_ne
    (mirrored : graph.Mirrored) {source target : String} (different : target ≠ name) :
    (graph.replaceDependees name sources).Edge source target ↔
      graph.Edge source target := by
  rw [Edge, Edge, contains_replaceDependees mirrored]
  simp [different]

/-! ## Paths before and after an edit -/

/-- What depends on a cell after the edit did so before, unless the edited name
lies between them. -/
theorem dependsOn_or_through_of_replaceDependees
    (mirrored : graph.Mirrored) {source target : String}
    (depends : (graph.replaceDependees name sources).DependsOn target source) :
    graph.DependsOn target source ∨
      (ReflTransGen (graph.replaceDependees name sources).Edge source name ∧
        ReflTransGen (graph.replaceDependees name sources).Edge name target) := by
  induction depends with
  | @single target edge =>
      by_cases same : target = name
      · subst same
        exact Or.inr ⟨.single edge, .refl⟩
      · exact Or.inl (.single ((edge_replaceDependees_of_ne mirrored same).1 edge))
  | @tail between target earlier edge inductionHypothesis =>
      by_cases same : target = name
      · subst same
        exact Or.inr ⟨(earlier.tail edge).to_reflTransGen, .refl⟩
      · rcases inductionHypothesis with old | ⟨before, after⟩
        · exact Or.inl (old.tail ((edge_replaceDependees_of_ne mirrored same).1 edge))
        · exact Or.inr ⟨before, after.tail edge⟩

/-- What depends on the edited name after the edit did so before, unless the edit
closes a cycle. -/
theorem dependsOn_or_closes_of_replaceDependees
    (mirrored : graph.Mirrored) {target : String}
    (depends : (graph.replaceDependees name sources).DependsOn target name) :
    graph.DependsOn target name ∨ graph.Closes name sources := by
  induction depends with
  | @single target edge =>
      by_cases same : target = name
      · subst same
        exact Or.inr ⟨target, (edge_replaceDependees_self mirrored).1 edge, Or.inl rfl⟩
      · exact Or.inl (.single ((edge_replaceDependees_of_ne mirrored same).1 edge))
  | @tail between target _ edge inductionHypothesis =>
      rcases inductionHypothesis with old | closes
      · by_cases same : target = name
        · subst same
          exact Or.inr ⟨between, (edge_replaceDependees_self mirrored).1 edge, Or.inr old⟩
        · exact Or.inl (old.tail ((edge_replaceDependees_of_ne mirrored same).1 edge))
      · exact Or.inr closes

/-- What depended on the edited name still does so, because no path between them
comes back to the name. -/
theorem dependsOn_replaceDependees
    (mirrored : graph.Mirrored) (acyclic : graph.Acyclic) {target : String}
    (depends : graph.DependsOn target name) :
    (graph.replaceDependees name sources).DependsOn target name := by
  induction depends with
  | @single target edge =>
      have different : target ≠ name := by
        intro same
        subst same
        exact acyclic target (.single edge)
      exact .single ((edge_replaceDependees_of_ne mirrored different).2 edge)
  | @tail between target earlier edge inductionHypothesis =>
      have different : target ≠ name := by
        intro same
        subst same
        exact acyclic target (earlier.tail edge)
      exact inductionHypothesis.tail ((edge_replaceDependees_of_ne mirrored different).2 edge)

/-- The graph stays without cycles exactly if the new sources close none. -/
theorem acyclic_replaceDependees_iff
    (mirrored : graph.Mirrored) (acyclic : graph.Acyclic) :
    (graph.replaceDependees name sources).Acyclic ↔ ¬ graph.Closes name sources := by
  constructor
  · intro stays closes
    obtain ⟨source, listed, leads⟩ := closes
    have closing : (graph.replaceDependees name sources).Edge source name :=
      (edge_replaceDependees_self mirrored).2 listed
    rcases leads with same | depends
    · subst same
      exact stays source (.single closing)
    · have dependsAfter : (graph.replaceDependees name sources).DependsOn source name :=
        dependsOn_replaceDependees mirrored acyclic depends
      exact stays name (dependsAfter.tail closing)
  · intro closesNone cell cycle
    rcases dependsOn_or_through_of_replaceDependees mirrored cycle with old | ⟨before, after⟩
    · exact acyclic cell old
    · have through : (graph.replaceDependees name sources).DependsOn name name :=
        TransGen.trans_right after (TransGen.trans_left cycle before)
      rcases dependsOn_or_closes_of_replaceDependees mirrored through with old | closes
      · exact acyclic name old
      · exact closesNone closes

end DependencyGraph

/-! ## Plans -/

namespace Sheet

open DependencyGraph

variable {graph : DependencyGraph} {name : String} {sources : List String}

theorem triggers_dependentsIf (mirrored : graph.Mirrored) :
    Triggers (dependentsIf graph name (graph.dependees name) sources) =
      (graph.replaceDependees name sources).Edge := by
  funext source target
  exact propext (mem_dependentsIf_iff_contains mirrored name sources source target)

/-- A plan is found exactly if the new sources close no cycle. -/
theorem exists_orderIf_eq_ok_iff
    (mirrored : graph.Mirrored) (acyclic : graph.Acyclic) :
    (∃ order, orderIf graph name sources = .ok order) ↔ ¬ graph.Closes name sources := by
  rw [orderIf, exists_recalcOrder_eq_ok_iff, triggers_dependentsIf mirrored,
    ← acyclic_replaceDependees_iff mirrored acyclic]
  constructor
  · intro noneReached cell cycle
    rcases dependsOn_or_through_of_replaceDependees mirrored cycle with old | ⟨_, reached⟩
    · exact acyclic cell old
    · exact noneReached cell reached cycle
  · exact fun stays cell _ => stays cell

/-- A plan begins with the edited name, has exactly this name and the cells that
depend on it after the edit, and has each cell before those that depend on it. -/
theorem orderIf_eq_ok
    (mirrored : graph.Mirrored) {order : List String}
    (planned : orderIf graph name sources = .ok order) :
    order.head? = some name ∧
      Ordered (dependentsIf graph name (graph.dependees name) sources) order ∧
      ∀ cell, cell ∈ order ↔
        cell = name ∨ (graph.replaceDependees name sources).DependsOn cell name := by
  obtain ⟨first, ordered, listed⟩ := recalcOrder_eq_ok planned
  refine ⟨first, ordered, fun cell => ?_⟩
  rw [listed, triggers_dependentsIf mirrored, reflTransGen_iff_eq_or_transGen]
  rfl

end Sheet

end Reckon
