import Mathlib.Logic.Relation
import Reckon.Sheet.Basic

/-!
Edits of dependency graphs. As long as both indexes hold the same pairs, replacing
the dependees of a name changes exactly the pairs that end in this name, and the
dependents that an edit is planned with are those of the graph after it.
-/

namespace Reckon

namespace DependencyGraph

/-! ## Two indexes of one set of pairs -/

/-- Both indexes of a graph hold the same pairs. -/
def Mirrored (graph : DependencyGraph) : Prop :=
  ∀ source target,
    source ∈ graph.dependees target ↔ graph.contains source target = true

@[simp]
theorem contains_empty (source target : String) :
    empty.contains source target = false := by
  simp [empty, contains, Adjacency.neighbours]

theorem mirrored_empty : empty.Mirrored := by
  intro source target
  simp [empty, contains, dependees, Adjacency.neighbours]

theorem Mirrored.add
    {graph : DependencyGraph} (mirrored : graph.Mirrored) (source target : String) :
    (graph.add source target).Mirrored := by
  intro left right
  rw [contains_add, ← mirrored left right]
  unfold DependencyGraph.add
  split
  · next present =>
      constructor
      · exact Or.inr
      · intro linked
        rcases linked with ⟨sameSource, sameTarget⟩ | listed
        · subst sameSource sameTarget
          exact (mirrored left right).2 present
        · exact listed
  · simp only [dependees, Std.ExtTreeSet.mem_toList, Adjacency.mem_neighbours_link]
    rw [and_comm]

theorem Mirrored.remove
    {graph : DependencyGraph} (mirrored : graph.Mirrored) (source target : String) :
    (graph.remove source target).Mirrored := by
  intro left right
  rw [contains_remove, ← mirrored left right]
  unfold DependencyGraph.remove
  split
  · simp only [dependees, Std.ExtTreeSet.mem_toList, Adjacency.mem_neighbours_unlink]
    rw [and_comm (a := right = target)]
  · next absent =>
      constructor
      · intro listed
        refine ⟨?_, listed⟩
        intro unlinked
        obtain ⟨sameSource, sameTarget⟩ := unlinked
        subst sameSource sameTarget
        exact absent ((mirrored left right).1 listed)
      · exact And.right

/-! ## Many pairs at once -/

def addAll (graph : DependencyGraph) (pairs : List (String × String)) : DependencyGraph :=
  pairs.foldl (fun grown pair => grown.add pair.1 pair.2) graph

def removeAll (graph : DependencyGraph) (pairs : List (String × String)) : DependencyGraph :=
  pairs.foldl (fun rest pair => rest.remove pair.1 pair.2) graph

private theorem contains_addAll
    (graph : DependencyGraph) (pairs : List (String × String)) (left right : String) :
    (graph.addAll pairs).contains left right = true ↔
      (left, right) ∈ pairs ∨ graph.contains left right = true := by
  induction pairs generalizing graph with
  | nil => simp [addAll]
  | cons pair rest inductionHypothesis =>
      have later := inductionHypothesis (graph.add pair.1 pair.2)
      rw [contains_add] at later
      rw [addAll, List.foldl_cons, ← addAll, later, List.mem_cons, Prod.ext_iff, or_assoc,
        or_left_comm]

private theorem contains_removeAll
    (graph : DependencyGraph) (pairs : List (String × String)) (left right : String) :
    (graph.removeAll pairs).contains left right = true ↔
      (left, right) ∉ pairs ∧ graph.contains left right = true := by
  induction pairs generalizing graph with
  | nil => simp [removeAll]
  | cons pair rest inductionHypothesis =>
      have later := inductionHypothesis (graph.remove pair.1 pair.2)
      rw [contains_remove] at later
      rw [removeAll, List.foldl_cons, ← removeAll, later, List.mem_cons, Prod.ext_iff, not_or,
        and_assoc, and_left_comm]

/-- The graph in which the pairs of some names have taken the place of those of others,
where a name stands for a pair. -/
def exchange (graph : DependencyGraph) (pairOf : String → String × String)
    (old new : List String) : DependencyGraph :=
  (graph.removeAll (old.map pairOf)).addAll (new.map pairOf)

theorem replaceDependents_eq (graph : DependencyGraph) (source : String) (targets : List String) :
    graph.replaceDependents source targets =
      graph.exchange (fun target => (source, target)) (graph.dependents source) targets := by
  rw [exchange, addAll, removeAll, List.foldl_map, List.foldl_map, replaceDependents]

theorem replaceDependees_eq (graph : DependencyGraph) (target : String) (sources : List String) :
    graph.replaceDependees target sources =
      graph.exchange (fun source => (source, target)) (graph.dependees target) sources := by
  rw [exchange, addAll, removeAll, List.foldl_map, List.foldl_map, replaceDependees]

theorem contains_exchange
    (graph : DependencyGraph) (pairOf : String → String × String) (old new : List String)
    (left right : String) :
    (graph.exchange pairOf old new).contains left right = true ↔
      (left, right) ∈ new.map pairOf ∨
        ((left, right) ∉ old.map pairOf ∧ graph.contains left right = true) := by
  rw [exchange, contains_addAll, contains_removeAll]

theorem Mirrored.exchange
    {graph : DependencyGraph} (mirrored : graph.Mirrored)
    (pairOf : String → String × String) (old new : List String) :
    (graph.exchange pairOf old new).Mirrored := by
  have cleared : (graph.removeAll (old.map pairOf)).Mirrored :=
    List.foldlRecOn _ _ mirrored fun _ mirroredRest pair _ => mirroredRest.remove pair.1 pair.2
  exact List.foldlRecOn _ _ cleared fun _ mirroredGrown pair _ =>
    mirroredGrown.add pair.1 pair.2

/-! ## Replacing the dependees of a name -/

private theorem mem_map_ending {names : List String} {name source target : String} :
    (source, target) ∈ names.map (fun other => (other, name)) ↔
      source ∈ names ∧ target = name := by
  rw [List.mem_map]
  constructor
  · intro listed
    obtain ⟨other, member, same⟩ := listed
    injection same with sameSource sameTarget
    exact ⟨sameSource ▸ member, sameTarget.symm⟩
  · intro ending
    exact ⟨source, ending.1, ending.2 ▸ rfl⟩

/-- Replacing the dependees of a name replaces the pairs that end in it and keeps
all others. -/
theorem contains_replaceDependees
    {graph : DependencyGraph} (mirrored : graph.Mirrored)
    (name : String) (sources : List String) (source target : String) :
    (graph.replaceDependees name sources).contains source target = true ↔
      (target = name ∧ source ∈ sources) ∨
        (target ≠ name ∧ graph.contains source target = true) := by
  rw [replaceDependees_eq, contains_exchange, mem_map_ending, mem_map_ending,
    mirrored source name]
  constructor
  · intro after
    rcases after with ⟨listed, same⟩ | ⟨notRemoved, present⟩
    · exact Or.inl ⟨same, listed⟩
    · have different : target ≠ name := by
        intro same
        subst same
        exact notRemoved ⟨present, rfl⟩
      exact Or.inr ⟨different, present⟩
  · intro wanted
    rcases wanted with ⟨same, listed⟩ | ⟨different, present⟩
    · exact Or.inl ⟨listed, same⟩
    · exact Or.inr ⟨fun removed => different removed.2, present⟩

theorem Mirrored.replaceDependees
    {graph : DependencyGraph} (mirrored : graph.Mirrored)
    (name : String) (sources : List String) :
    (graph.replaceDependees name sources).Mirrored := by
  rw [replaceDependees_eq]
  exact mirrored.exchange _ _ _

end DependencyGraph

namespace Sheet

/-- An edit is planned with the dependents of the graph after it. -/
theorem mem_dependentsIf_iff_contains
    {graph : DependencyGraph} (mirrored : graph.Mirrored)
    (name : String) (sources : List String) (cell target : String) :
    target ∈ dependentsIf graph name (graph.dependees name) sources cell ↔
      (graph.replaceDependees name sources).contains cell target = true := by
  have kept :
      target ∈ keptDependents graph name (graph.dependees name) cell ↔
        target ≠ name ∧ graph.contains cell target = true := by
    unfold keptDependents
    rw [DependencyGraph.contains_iff_mem_dependents]
    split
    · simp [and_comm]
    · next unrelated =>
        constructor
        · intro depends
          have different : target ≠ name := by
            intro same
            subst same
            apply unrelated
            rw [mirrored, DependencyGraph.contains_iff_mem_dependents]
            exact depends
          exact ⟨different, depends⟩
        · exact And.right
  rw [mem_dependentsIf, kept, DependencyGraph.contains_replaceDependees mirrored]
  exact or_comm

end Sheet

end Reckon
