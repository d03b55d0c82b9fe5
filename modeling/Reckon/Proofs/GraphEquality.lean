import Mathlib.Data.Set.Card
import Reckon.Proofs.GraphEdits

/-!
Equality of dependency graphs. A graph that is built pair by pair lists no name without
neighbours, in neither index, and its size is the number of its pairs. So the pairs
settle the graph: two such graphs are equal when they hold the same pairs, whatever was
added and removed before.
-/

namespace Reckon

namespace Adjacency

/-- Every name that is listed has neighbours. -/
def Inhabited (adjacency : Adjacency) : Prop :=
  ∀ (name : String) (set : Std.ExtTreeSet String),
    adjacency[name]? = some set → set.isEmpty = false

private theorem inhabited_empty : Inhabited ∅ := by
  intro name set listed
  simp at listed

theorem Inhabited.link
    {adjacency : Adjacency} (inhabited : adjacency.Inhabited) (name neighbour : String) :
    (adjacency.link name neighbour).Inhabited := by
  intro other set listed
  rw [Adjacency.link, Std.ExtTreeMap.getElem?_insert] at listed
  split at listed
  · injection listed with equality
    rw [← equality, Bool.eq_false_iff]
    intro nothing
    have member : neighbour ∈ (adjacency.neighbours name).insert neighbour :=
      Std.ExtTreeSet.mem_insert_self
    rw [Std.ExtTreeSet.isEmpty_iff.1 nothing] at member
    exact Std.ExtTreeSet.not_mem_empty member
  · exact inhabited other set listed

theorem Inhabited.unlink
    {adjacency : Adjacency} (inhabited : adjacency.Inhabited) (name neighbour : String) :
    (adjacency.unlink name neighbour).Inhabited := by
  intro other set listed
  unfold Adjacency.unlink at listed
  dsimp only at listed
  split at listed
  · rw [Std.ExtTreeMap.getElem?_erase] at listed
    split at listed
    · cases listed
    · exact inhabited other set listed
  · next remaining =>
      rw [Std.ExtTreeMap.getElem?_insert] at listed
      split at listed
      · injection listed with equality
        rw [← equality]
        exact Bool.eq_false_iff.2 remaining
      · exact inhabited other set listed

/-- Where every listed name has neighbours, the neighbours settle all. -/
theorem eq_of_neighbours_eq
    {adjacency other : Adjacency} (inhabited : adjacency.Inhabited)
    (otherInhabited : other.Inhabited)
    (same : ∀ name, adjacency.neighbours name = other.neighbours name) :
    adjacency = other := by
  apply Std.ExtTreeMap.ext_getElem?
  intro name
  have sameHere := same name
  unfold neighbours at sameHere
  cases listed : adjacency[name]? with
  | none =>
      cases otherListed : other[name]? with
      | none => rfl
      | some set =>
          rw [listed, otherListed] at sameHere
          have something := otherInhabited name set otherListed
          rw [← show ∅ = set from sameHere] at something
          simp at something
  | some set =>
      cases otherListed : other[name]? with
      | none =>
          rw [listed, otherListed] at sameHere
          have something := inhabited name set listed
          rw [show set = ∅ from sameHere] at something
          simp at something
      | some otherSet =>
          rw [listed, otherListed] at sameHere
          exact congrArg some sameHere

end Adjacency

namespace DependencyGraph

def pairs (graph : DependencyGraph) : Set (String × String) :=
  {pair | graph.contains pair.1 pair.2 = true}

/-- Both indexes hold the same pairs and nothing else, and the size counts them. -/
structure Tidy (graph : DependencyGraph) : Prop where
  mirrored : graph.Mirrored
  forward : graph.forward.Inhabited
  backward : graph.backward.Inhabited
  finite : graph.pairs.Finite
  size : graph.size = graph.pairs.ncard

theorem pairs_empty : empty.pairs = ∅ := by
  ext pair
  simp [pairs]

theorem tidy_empty : empty.Tidy where
  mirrored := mirrored_empty
  forward := Adjacency.inhabited_empty
  backward := Adjacency.inhabited_empty
  finite := by
    rw [pairs_empty]
    exact Set.finite_empty
  size := by
    rw [pairs_empty, Set.ncard_empty]
    rfl

theorem pairs_add (graph : DependencyGraph) (source target : String) :
    (graph.add source target).pairs = insert (source, target) graph.pairs := by
  ext pair
  simp only [pairs, Set.mem_ofPred_eq, Set.mem_insert_iff, contains_add, Prod.ext_iff]

theorem pairs_remove (graph : DependencyGraph) (source target : String) :
    (graph.remove source target).pairs = graph.pairs \ {(source, target)} := by
  ext pair
  simp only [pairs, Set.mem_ofPred_eq, Set.mem_sdiff, Set.mem_singleton_iff, contains_remove,
    Prod.ext_iff]
  exact and_comm

namespace Tidy

variable {graph : DependencyGraph}

theorem add (tidy : graph.Tidy) (source target : String) : (graph.add source target).Tidy where
  mirrored := tidy.mirrored.add source target
  forward := by
    unfold DependencyGraph.add
    split
    · exact tidy.forward
    · exact tidy.forward.link source target
  backward := by
    unfold DependencyGraph.add
    split
    · exact tidy.backward
    · exact tidy.backward.link target source
  finite := by
    rw [pairs_add]
    exact tidy.finite.insert (source, target)
  size := by
    by_cases present : graph.contains source target = true
    · rw [DependencyGraph.add, if_pos present]
      exact tidy.size
    · have absent : (source, target) ∉ graph.pairs := present
      rw [pairs_add, Set.ncard_insert_of_notMem absent tidy.finite, DependencyGraph.add,
        if_neg present, ← tidy.size]

theorem remove (tidy : graph.Tidy) (source target : String) :
    (graph.remove source target).Tidy where
  mirrored := tidy.mirrored.remove source target
  forward := by
    unfold DependencyGraph.remove
    split
    · exact tidy.forward.unlink source target
    · exact tidy.forward
  backward := by
    unfold DependencyGraph.remove
    split
    · exact tidy.backward.unlink target source
    · exact tidy.backward
  finite := by
    rw [pairs_remove]
    exact tidy.finite.sdiff
  size := by
    by_cases present : graph.contains source target = true
    · have listed : (source, target) ∈ graph.pairs := present
      rw [pairs_remove, Set.ncard_sdiff_singleton_of_mem listed, DependencyGraph.remove,
        if_pos present, ← tidy.size]
    · rw [DependencyGraph.remove, if_neg present]
      exact tidy.size

theorem addAll (tidy : graph.Tidy) (pairs : List (String × String)) :
    (graph.addAll pairs).Tidy :=
  List.foldlRecOn _ _ tidy fun _ tidyGrown pair _ => tidyGrown.add pair.1 pair.2

theorem removeAll (tidy : graph.Tidy) (pairs : List (String × String)) :
    (graph.removeAll pairs).Tidy :=
  List.foldlRecOn _ _ tidy fun _ tidyRest pair _ => tidyRest.remove pair.1 pair.2

theorem exchange
    (tidy : graph.Tidy) (pairOf : String → String × String) (old new : List String) :
    (graph.exchange pairOf old new).Tidy :=
  (tidy.removeAll _).addAll _

theorem replaceDependees (tidy : graph.Tidy) (name : String) (sources : List String) :
    (graph.replaceDependees name sources).Tidy := by
  rw [replaceDependees_eq]
  exact tidy.exchange _ _ _

theorem eq_of_contains_eq
    {other : DependencyGraph} (tidy : graph.Tidy) (otherTidy : other.Tidy)
    (same : ∀ source target,
      graph.contains source target = true ↔ other.contains source target = true) :
    graph = other := by
  have samePairs : graph.pairs = other.pairs := Set.ext fun pair => same pair.1 pair.2
  have sameForward : graph.forward = other.forward := by
    refine Adjacency.eq_of_neighbours_eq tidy.forward otherTidy.forward fun source => ?_
    apply Std.ExtTreeSet.ext_mem
    intro target
    simpa [contains] using same source target
  have sameBackward : graph.backward = other.backward := by
    refine Adjacency.eq_of_neighbours_eq tidy.backward otherTidy.backward fun target => ?_
    apply Std.ExtTreeSet.ext_mem
    intro source
    have listed := (tidy.mirrored source target).trans <|
      (same source target).trans (otherTidy.mirrored source target).symm
    simpa [dependees] using listed
  have sameSize : graph.size = other.size := by
    rw [tidy.size, otherTidy.size, samePairs]
  cases graph
  cases other
  simp_all

/-- The order in which old pairs are listed makes no difference. -/
theorem exchange_eq_of_perm
    (tidy : graph.Tidy) (pairOf : String → String × String) {old listed : List String}
    (perm : listed.Perm old) (new : List String) :
    graph.exchange pairOf listed new = graph.exchange pairOf old new := by
  apply (tidy.exchange _ _ _).eq_of_contains_eq (tidy.exchange _ _ _)
  intro source target
  rw [contains_exchange, contains_exchange, (perm.map pairOf).mem_iff]

end Tidy

end DependencyGraph

end Reckon
