import Reckon.Proofs.PairSets

/-!
Plans on the graph after an edit. The dependents with which an edit is planned are those of
the graph after it, each once; so the plan is the order of recalculation in that graph, and
an edit is refused as circular exactly where this order is not found. This holds in every
graph that changes can build, also in one with cycles.
-/

namespace Reckon

/-- The order in which a change of a name is carried on in a graph. -/
def DependencyGraph.orderFrom (graph : DependencyGraph) (name : String) :
    Except CycleDetected (List String) :=
  recalcOrder graph.dependents name (name :: graph.targets) fun cell reached => by
    cases reached with
    | start => exact List.mem_cons_self
    | step _ depends =>
        exact List.mem_cons_of_mem _ (DependencyGraph.mem_targets_of_mem_dependents depends)

private theorem DependencyGraph.nodup_dependents (graph : DependencyGraph) (source : String) :
    (graph.dependents source).Nodup :=
  Adjacency.nodup_toList_neighbours graph.forward source

namespace Sheet

section

variable {graph : DependencyGraph}

private theorem nodup_dependentsIf
    (graph : DependencyGraph) (name : String) (oldSources newSources : List String)
    (cell : String) : (dependentsIf graph name oldSources newSources cell).Nodup := by
  have kept : (keptDependents graph name oldSources cell).Nodup := by
    rw [keptDependents]
    by_cases old : cell ∈ oldSources
    · rw [if_pos old]
      exact (graph.nodup_dependents cell).filter _
    · rw [if_neg old]
      exact graph.nodup_dependents cell
  rw [dependentsIf]
  by_cases added : cell ∈ newSources ∧ name ∉ keptDependents graph name oldSources cell
  · rw [if_pos added]
    exact kept.append (List.nodup_singleton name) (List.disjoint_singleton.2 added.2)
  · rw [if_neg added]
    exact kept

/-- The dependents with which an edit is planned are those of the graph after it. -/
theorem dependentsIf_perm_dependents
    (mirrored : graph.Mirrored) (name : String) (sources : List String) (cell : String) :
    (dependentsIf graph name (graph.dependees name) sources cell).Perm
      ((graph.replaceDependees name sources).dependents cell) := by
  have distinct := nodup_dependentsIf graph name (graph.dependees name) sources cell
  have distinctAfter := (graph.replaceDependees name sources).nodup_dependents cell
  apply (List.perm_ext_iff_of_nodup distinct distinctAfter).2
  intro target
  rw [mem_dependentsIf_iff_contains mirrored, DependencyGraph.contains_iff_mem_dependents]

theorem orderIf_eq_orderFrom
    (mirrored : graph.Mirrored) (name : String) (sources : List String) :
    orderIf graph name sources = (graph.replaceDependees name sources).orderFrom name := by
  apply recalcOrder_congr
  intro cell target
  exact (dependentsIf_perm_dependents mirrored name sources cell).mem_iff

end

/-- The dependents of each cell with which an edit is planned are, each once, those in the
graph once the sources of the edited name are replaced, in whatever order the old graph lists
its names. So the plan is the order of recalculation in the graph of the sheet after the
contents are installed, and the edit is refused as circular exactly where a cycle is found
there. -/
theorem plan_eq_orderFrom_install
    (sheet : Sheet) (changes : List GraphChange) (name : String) (contents : Contents) :
    let before := { sheet with graph := GraphChange.graphAfter changes }
    let after := before.install name contents
    let replaced := before.graph.replaceDependees name contents.names
    (∀ cell,
      (dependentsIf before.graph name (before.graph.dependees name) contents.names cell).Nodup ∧
      (dependentsIf before.graph name (before.graph.dependees name) contents.names cell).Perm
        (replaced.dependents cell)) ∧
    (∀ listing : Listing,
      (∀ cell, (listing.dependentsIf before.graph name (listing.dependees before.graph name)
          contents.names cell).Perm (replaced.dependents cell)) ∧
      listing.plan before name contents = before.plan name contents) ∧
    (∀ order, before.plan name contents = .ok order ↔ after.graph.orderFrom name = .ok order) ∧
    (before.plan name contents = .error (.circularDependency name) ↔
      ∃ detected, after.graph.orderFrom name = .error detected) := by
  intro before after replaced
  have mirrored : before.graph.Mirrored := (GraphChange.tidy_graphAfter changes).mirrored
  have samePlan : before.plan name contents =
      (after.graph.orderFrom name).mapError fun _ => .circularDependency name :=
    congrArg (Except.mapError _) (orderIf_eq_orderFrom mirrored name contents.names)
  have sameDependents := dependentsIf_perm_dependents mirrored name contents.names
  refine ⟨fun cell => ⟨nodup_dependentsIf _ _ _ _ cell, sameDependents cell⟩, ?_, ?_, ?_⟩
  · intro listing
    have sameSources := listing.dependees_perm before.graph name
    refine ⟨fun cell => ?_, listing.plan_eq before name contents⟩
    exact (listing.dependentsIf_perm sameSources _ name contents.names cell).trans
      (sameDependents cell)
  · intro order
    rw [samePlan, mapError_eq_ok]
  · rw [samePlan]
    cases after.graph.orderFrom name with
    | ok order => simp [Except.mapError]
    | error detected => simp [Except.mapError]

end Sheet

end Reckon
