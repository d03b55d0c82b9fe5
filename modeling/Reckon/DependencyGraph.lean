import Std.Data.ExtTreeMap
import Std.Data.ExtTreeSet

/-!
Dependency graphs: sets of pairs `(source, target)`, where the target depends on
the source. Both directions are indexed, so that the dependents and the dependees
of a name are at hand without a search.
-/

namespace Reckon

/-- For each name that has neighbours, the set of them. -/
abbrev Adjacency := Std.ExtTreeMap String (Std.ExtTreeSet String)

namespace Adjacency

/-- The neighbours of a name, none where the name is not listed. -/
def neighbours (adjacency : Adjacency) (name : String) : Std.ExtTreeSet String :=
  (adjacency[name]?).getD ∅

def link (adjacency : Adjacency) (name neighbour : String) : Adjacency :=
  adjacency.insert name ((neighbours adjacency name).insert neighbour)

/-- One neighbour less of a name; a name without neighbours is not listed. -/
def unlink (adjacency : Adjacency) (name neighbour : String) : Adjacency :=
  let remaining := (neighbours adjacency name).erase neighbour
  if remaining.isEmpty then
    adjacency.erase name
  else
    adjacency.insert name remaining

theorem mem_neighbours_link
    {adjacency : Adjacency} {name neighbour other candidate : String} :
    candidate ∈ neighbours (link adjacency name neighbour) other ↔
      (other = name ∧ candidate = neighbour) ∨ candidate ∈ neighbours adjacency other := by
  by_cases same : name = other
  · subst same
    simp [neighbours, link, Std.ExtTreeSet.mem_insert, @eq_comm _ neighbour candidate]
  · have different : ¬ other = name := fun equality => same equality.symm
    simp [neighbours, link, Std.ExtTreeMap.getElem?_insert, same, different]

theorem mem_neighbours_unlink
    {adjacency : Adjacency} {name neighbour other candidate : String} :
    candidate ∈ neighbours (unlink adjacency name neighbour) other ↔
      ¬ (other = name ∧ candidate = neighbour) ∧ candidate ∈ neighbours adjacency other := by
  by_cases same : name = other
  · subst same
    have listed :
        neighbours (unlink adjacency name neighbour) name =
          (neighbours adjacency name).erase neighbour := by
      unfold unlink
      simp only
      split
      · next noneLeft =>
          rw [Std.ExtTreeSet.isEmpty_iff] at noneLeft
          rw [noneLeft]
          simp [neighbours]
      · simp [neighbours]
    rw [listed]
    simp [Std.ExtTreeSet.mem_erase, @eq_comm _ neighbour candidate]
  · have different : ¬ other = name := fun equality => same equality.symm
    unfold unlink
    simp only
    split <;>
      simp [neighbours, Std.ExtTreeMap.getElem?_insert, Std.ExtTreeMap.getElem?_erase, same,
        different]

end Adjacency

/-- A set of dependency pairs, indexed by source and by target. -/
structure DependencyGraph where
  /-- The dependents of each source. -/
  forward : Adjacency
  /-- The dependees of each target. -/
  backward : Adjacency
  /-- The number of pairs. -/
  size : Nat
deriving DecidableEq

namespace DependencyGraph

def empty : DependencyGraph :=
  ⟨∅, ∅, 0⟩

def isEmpty (graph : DependencyGraph) : Bool :=
  graph.size = 0

def dependents (graph : DependencyGraph) (source : String) : List String :=
  (graph.forward.neighbours source).toList

def dependees (graph : DependencyGraph) (target : String) : List String :=
  (graph.backward.neighbours target).toList

def dependeeCount (graph : DependencyGraph) (target : String) : Nat :=
  (graph.backward.neighbours target).size

def hasDependents (graph : DependencyGraph) (source : String) : Bool :=
  graph.forward.contains source

def hasDependees (graph : DependencyGraph) (target : String) : Bool :=
  graph.backward.contains target

def contains (graph : DependencyGraph) (source target : String) : Bool :=
  (graph.forward.neighbours source).contains target

/-- The graph with one more pair, or the same graph where the pair is there. -/
def add (graph : DependencyGraph) (source target : String) : DependencyGraph :=
  if graph.contains source target then
    graph
  else
    ⟨graph.forward.link source target, graph.backward.link target source,
      graph.size + 1⟩

/-- The graph with one pair less, or the same graph where the pair is absent. -/
def remove (graph : DependencyGraph) (source target : String) : DependencyGraph :=
  if graph.contains source target then
    ⟨graph.forward.unlink source target, graph.backward.unlink target source,
      graph.size - 1⟩
  else
    graph

/-- The graph in which exactly the given names depend on a source. -/
def replaceDependents
    (graph : DependencyGraph) (source : String) (targets : List String) :
    DependencyGraph :=
  let cleared :=
    (graph.dependents source).foldl (fun rest target => rest.remove source target) graph
  targets.foldl (fun grown target => grown.add source target) cleared

/-- The graph in which a target depends on exactly the given names. -/
def replaceDependees
    (graph : DependencyGraph) (target : String) (sources : List String) :
    DependencyGraph :=
  let cleared := (graph.dependees target).foldl (fun rest source => rest.remove source target) graph
  sources.foldl (fun grown source => grown.add source target) cleared

def ofList (pairs : List (String × String)) : DependencyGraph :=
  pairs.foldl (fun graph pair => graph.add pair.1 pair.2) empty

/-! ## Membership of pairs -/

theorem contains_iff_mem_dependents
    {graph : DependencyGraph} {source target : String} :
    graph.contains source target = true ↔ target ∈ graph.dependents source := by
  simp [contains, dependents]

theorem contains_add
    {graph : DependencyGraph} {source target left right : String} :
    (graph.add source target).contains left right = true ↔
      (left = source ∧ right = target) ∨ graph.contains left right = true := by
  unfold add
  split
  · next present =>
      constructor
      · exact Or.inr
      · rintro (⟨rfl, rfl⟩ | known)
        · exact present
        · exact known
  · simp only [contains, Std.ExtTreeSet.contains_iff_mem]
    exact Adjacency.mem_neighbours_link

theorem contains_remove
    {graph : DependencyGraph} {source target left right : String} :
    (graph.remove source target).contains left right = true ↔
      ¬ (left = source ∧ right = target) ∧ graph.contains left right = true := by
  unfold remove
  split
  · simp only [contains, Std.ExtTreeSet.contains_iff_mem]
    exact Adjacency.mem_neighbours_unlink
  · next absent =>
      constructor
      · intro known
        refine ⟨?_, known⟩
        rintro ⟨rfl, rfl⟩
        exact absent known
      · exact And.right

/-! ## Targets -/

/-- Every name that depends on another one. -/
def targets (graph : DependencyGraph) : List String :=
  graph.forward.toList.flatMap fun entry => entry.2.toList

theorem mem_targets_of_mem_dependents
    {graph : DependencyGraph} {source target : String}
    (depends : target ∈ graph.dependents source) :
    target ∈ graph.targets := by
  unfold dependents Adjacency.neighbours at depends
  cases listed : graph.forward[source]? with
  | none => simp [listed] at depends
  | some set =>
      rw [listed, Option.getD_some] at depends
      refine List.mem_flatMap.2 ⟨(source, set), ?_, depends⟩
      exact Std.ExtTreeMap.mem_toList_iff_getElem?_eq_some.2 listed

end DependencyGraph

end Reckon
