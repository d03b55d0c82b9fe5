import Reckon.Proofs.Listings

/-!
Dependency graphs as sets of pairs. Every change of a graph does to its pairs what its
name says of a set: one pair more, one pair less, or all pairs at one name replaced. Both
indexes and the size keep up with the pairs, in whatever order old pairs are taken out, and
the size is never counted down from zero. So a graph is no more than the set of its pairs.
-/

namespace Reckon

namespace Adjacency

theorem Inhabited.contains_iff
    {adjacency : Adjacency} (inhabited : adjacency.Inhabited) {name : String} :
    adjacency.contains name = true ↔ ∃ neighbour, neighbour ∈ adjacency.neighbours name := by
  rw [Std.ExtTreeMap.contains_eq_isSome_getElem?, neighbours]
  cases listed : adjacency[name]? with
  | none => simp
  | some set =>
      have something : set.isEmpty = false := inhabited name set listed
      have member : ∃ neighbour, neighbour ∈ set := by
        by_contra nothing
        have empty : set = ∅ :=
          Std.ExtTreeSet.ext_mem fun neighbour =>
            iff_of_false (fun listed => nothing ⟨neighbour, listed⟩)
              Std.ExtTreeSet.not_mem_empty
        rw [empty] at something
        simp at something
      simpa using member

theorem nodup_toList_neighbours (adjacency : Adjacency) (name : String) :
    (adjacency.neighbours name).toList.Nodup := by
  have distinct :
      (adjacency.neighbours name).toList.Pairwise fun left right => ¬ compare left right = .eq :=
    Std.ExtTreeSet.distinct_toList
  apply distinct.imp
  intro left right different same
  exact different (same ▸ Std.ReflCmp.compare_self)

end Adjacency

namespace DependencyGraph

/-! ## What the queries say about the pairs -/

private theorem mem_dependents {graph : DependencyGraph} {source target : String} :
    target ∈ graph.dependents source ↔ (source, target) ∈ graph.pairs :=
  contains_iff_mem_dependents.symm

namespace Tidy

variable {graph other : DependencyGraph}

private theorem mem_dependees (tidy : graph.Tidy) {source target : String} :
    source ∈ graph.dependees target ↔ (source, target) ∈ graph.pairs :=
  tidy.mirrored source target

private theorem dependeeCount_eq (tidy : graph.Tidy) (target : String) :
    graph.dependeeCount target = {source | (source, target) ∈ graph.pairs}.ncard := by
  have listed : {source | (source, target) ∈ graph.pairs} =
      ((graph.dependees target).toFinset : Set String) := by
    ext source
    rw [List.coe_toFinset]
    exact tidy.mem_dependees.symm
  have distinct : (graph.dependees target).Nodup :=
    Adjacency.nodup_toList_neighbours graph.backward target
  rw [listed, Set.ncard_coe_finset, List.toFinset_card_of_nodup distinct, dependeeCount,
    dependees, Std.ExtTreeSet.length_toList]

private theorem size_pos (tidy : graph.Tidy) {source target : String}
    (present : graph.contains source target = true) : 0 < graph.size := by
  rw [tidy.size]
  exact (Set.ncard_pos tidy.finite).2 ⟨(source, target), present⟩

private theorem eq_of_pairs_eq
    (tidy : graph.Tidy) (otherTidy : other.Tidy) (same : graph.pairs = other.pairs) :
    graph = other :=
  tidy.eq_of_contains_eq otherTidy fun source target => Set.ext_iff.1 same (source, target)

end Tidy

/-! ## Exchanging pairs -/

private theorem pairs_exchange
    {graph : DependencyGraph} {pairOf : String → String × String} {old : List String}
    (listed : ∀ name, name ∈ old ↔ pairOf name ∈ graph.pairs) (new : List String) :
    (graph.exchange pairOf old new).pairs =
      (graph.pairs \ Set.range pairOf) ∪ {pair | ∃ name ∈ new, pairOf name = pair} := by
  ext pair
  have exchanged := contains_exchange graph pairOf old new pair.1 pair.2
  rw [List.mem_map, List.mem_map] at exchanged
  refine exchanged.trans (or_comm.trans (or_congr_left ?_))
  rw [and_comm]
  apply and_congr_right
  intro present
  apply not_congr
  constructor
  · intro taken
    obtain ⟨name, _, same⟩ := taken
    exact ⟨name, same⟩
  · intro named
    obtain ⟨name, same⟩ := named
    exact ⟨name, (listed name).2 (same ▸ present), same⟩

/-! ## Counting down -/

/-- The graph with one pair less, as long as the size is not zero when it is counted down. -/
def removeCounted (graph : DependencyGraph) (source target : String) : Option DependencyGraph :=
  if graph.contains source target = true ∧ graph.size = 0 then
    none
  else
    some (graph.remove source target)

def exchangeCounted (graph : DependencyGraph) (pairOf : String → String × String)
    (old new : List String) : Option DependencyGraph := do
  let cleared ← (old.map pairOf).foldlM (fun rest pair => rest.removeCounted pair.1 pair.2) graph
  return cleared.addAll (new.map pairOf)

namespace Tidy

variable {graph : DependencyGraph}

private theorem removeCounted_eq (tidy : graph.Tidy) (source target : String) :
    graph.removeCounted source target = some (graph.remove source target) := by
  rw [removeCounted, if_neg]
  intro underflow
  obtain ⟨present, nothing⟩ := underflow
  exact (tidy.size_pos present).ne' nothing

private theorem foldlM_removeCounted_eq (tidy : graph.Tidy) (pairs : List (String × String)) :
    pairs.foldlM (fun rest pair => rest.removeCounted pair.1 pair.2) graph =
      some (graph.removeAll pairs) := by
  induction pairs generalizing graph with
  | nil => rfl
  | cons pair rest inductionHypothesis =>
      rw [List.foldlM_cons, tidy.removeCounted_eq pair.1 pair.2]
      exact inductionHypothesis (tidy.remove pair.1 pair.2)

/-- The old pairs are taken out in any order, and the size is not counted down from zero on
the way. -/
theorem exchangeCounted_eq
    (tidy : graph.Tidy) (pairOf : String → String × String) {old listed : List String}
    (perm : listed.Perm old) (new : List String) :
    graph.exchangeCounted pairOf listed new = some (graph.exchange pairOf old new) := by
  rw [exchangeCounted, tidy.foldlM_removeCounted_eq, ← tidy.exchange_eq_of_perm pairOf perm]
  rfl

end Tidy

end DependencyGraph

/-! ## Changes -/

inductive GraphChange where
  | add (source target : String)
  | remove (source target : String)
  | replaceDependents (source : String) (targets : List String)
  | replaceDependees (target : String) (sources : List String)

namespace GraphChange

def apply (change : GraphChange) (graph : DependencyGraph) : DependencyGraph :=
  match change with
  | .add source target => graph.add source target
  | .remove source target => graph.remove source target
  | .replaceDependents source targets => graph.replaceDependents source targets
  | .replaceDependees target sources => graph.replaceDependees target sources

/-- The change of a set of pairs. A replacement takes out all pairs at a name and puts in
the new ones. -/
def onPairs (change : GraphChange) (pairs : Set (String × String)) : Set (String × String) :=
  match change with
  | .add source target => insert (source, target) pairs
  | .remove source target => pairs \ {(source, target)}
  | .replaceDependents source targets =>
      (pairs \ {pair | pair.1 = source}) ∪ {pair | pair.1 = source ∧ pair.2 ∈ targets}
  | .replaceDependees target sources =>
      (pairs \ {pair | pair.2 = target}) ∪ {pair | pair.2 = target ∧ pair.1 ∈ sources}

/-- The change of a graph in which old pairs are taken out as they are listed, and which
fails where the size would be counted down from zero. -/
def applyCounted
    (change : GraphChange) (listing : Listing) (graph : DependencyGraph) :
    Option DependencyGraph :=
  match change with
  | .add source target => some (graph.add source target)
  | .remove source target => graph.removeCounted source target
  | .replaceDependents source targets =>
      graph.exchangeCounted (fun target => (source, target))
        (listing.dependents graph source) targets
  | .replaceDependees target sources =>
      graph.exchangeCounted (fun source => (source, target))
        (listing.dependees graph target) sources

section

variable {graph : DependencyGraph}

private theorem tidy_apply (tidy : graph.Tidy) (change : GraphChange) :
    (change.apply graph).Tidy := by
  cases change with
  | add source target => exact tidy.add source target
  | remove source target => exact tidy.remove source target
  | replaceDependents source targets =>
      rw [apply, DependencyGraph.replaceDependents_eq]
      exact tidy.exchange _ _ _
  | replaceDependees target sources => exact tidy.replaceDependees target sources

private theorem pairs_apply (tidy : graph.Tidy) (change : GraphChange) :
    (change.apply graph).pairs = change.onPairs graph.pairs := by
  cases change with
  | add source target => exact DependencyGraph.pairs_add graph source target
  | remove source target => exact DependencyGraph.pairs_remove graph source target
  | replaceDependents source targets =>
      have listed : ∀ target, target ∈ graph.dependents source ↔ (source, target) ∈ graph.pairs :=
        fun target => DependencyGraph.mem_dependents
      rw [apply, DependencyGraph.replaceDependents_eq, DependencyGraph.pairs_exchange listed,
        onPairs]
      congr 1
      · ext pair
        simp [Prod.ext_iff, eq_comm]
      · ext pair
        simp [Prod.ext_iff, and_comm, eq_comm]
  | replaceDependees target sources =>
      have listed : ∀ source, source ∈ graph.dependees target ↔ (source, target) ∈ graph.pairs :=
        fun source => tidy.mem_dependees
      rw [apply, DependencyGraph.replaceDependees_eq, DependencyGraph.pairs_exchange listed,
        onPairs]
      congr 1
      · ext pair
        simp [Prod.ext_iff, eq_comm]
      · ext pair
        simp [Prod.ext_iff, and_comm, eq_comm]

private theorem applyCounted_eq (tidy : graph.Tidy) (change : GraphChange) (listing : Listing) :
    change.applyCounted listing graph = some (change.apply graph) := by
  cases change with
  | add source target => rfl
  | remove source target => exact tidy.removeCounted_eq source target
  | replaceDependents source targets =>
      rw [apply, DependencyGraph.replaceDependents_eq]
      exact tidy.exchangeCounted_eq _ (listing.dependents_perm graph source) targets
  | replaceDependees target sources =>
      rw [apply, DependencyGraph.replaceDependees_eq]
      exact tidy.exchangeCounted_eq _ (listing.dependees_perm graph target) sources

end

/-! ## Runs of changes -/

def graphAfter (changes : List GraphChange) : DependencyGraph :=
  changes.foldl (fun graph change => change.apply graph) .empty

def pairsAfter (changes : List GraphChange) : Set (String × String) :=
  changes.foldl (fun pairs change => change.onPairs pairs) ∅

theorem tidy_graphAfter (changes : List GraphChange) : (graphAfter changes).Tidy :=
  List.foldlRecOn _ _ DependencyGraph.tidy_empty fun _ tidy change _ => tidy_apply tidy change

theorem pairs_graphAfter (changes : List GraphChange) :
    (graphAfter changes).pairs = pairsAfter changes := by
  induction changes using List.reverseRecOn with
  | nil => exact DependencyGraph.pairs_empty
  | append_singleton earlier change inductionHypothesis =>
      rw [graphAfter, pairsAfter, List.foldl_concat, List.foldl_concat, ← graphAfter,
        ← pairsAfter, pairs_apply (tidy_graphAfter earlier), inductionHypothesis]

theorem foldlM_applyCounted_eq (listed : List (Listing × GraphChange)) :
    listed.foldlM (fun graph entry => entry.2.applyCounted entry.1 graph) .empty =
      some (graphAfter (listed.map Prod.snd)) := by
  have fromTidy : ∀ graph : DependencyGraph, graph.Tidy →
      listed.foldlM (fun graph entry => entry.2.applyCounted entry.1 graph) graph =
        some ((listed.map Prod.snd).foldl (fun graph change => change.apply graph) graph) := by
    induction listed with
    | nil => exact fun _ _ => rfl
    | cons entry later inductionHypothesis =>
        intro graph tidy
        rw [List.foldlM_cons, applyCounted_eq tidy entry.2 entry.1]
        exact inductionHypothesis _ (tidy_apply tidy entry.2)
  exact fromTidy _ DependencyGraph.tidy_empty

/-- After any changes of an empty graph, its queries answer for the set that the same
changes make of the empty one: both indexes hold exactly its pairs and no name without
any, and the size is their number. The changes are carried out to their end without
counting down from zero, in whatever order old pairs are listed. And two such graphs are
equal exactly where their sets are, whatever changes have led to them. -/
theorem graphAfter_represents_pairsAfter (changes : List GraphChange) :
    let graph := graphAfter changes
    let pairs := pairsAfter changes
    (∀ source target,
      (target ∈ graph.dependents source ↔ (source, target) ∈ pairs) ∧
      (source ∈ graph.dependees target ↔ (source, target) ∈ pairs) ∧
      (graph.contains source target = true ↔ (source, target) ∈ pairs)) ∧
    (∀ name, (graph.dependents name).Nodup ∧ (graph.dependees name).Nodup) ∧
    (graph.forward.Inhabited ∧ graph.backward.Inhabited) ∧
    (∀ source, graph.hasDependents source = true ↔ ∃ target, (source, target) ∈ pairs) ∧
    (∀ target, graph.hasDependees target = true ↔ ∃ source, (source, target) ∈ pairs) ∧
    (∀ target, graph.dependeeCount target = {source | (source, target) ∈ pairs}.ncard) ∧
    (pairs.Finite ∧ graph.size = pairs.ncard ∧ (graph.isEmpty = true ↔ pairs = ∅)) ∧
    (∀ listed : List (Listing × GraphChange), listed.map Prod.snd = changes →
      listed.foldlM (fun graph entry => entry.2.applyCounted entry.1 graph) .empty =
        some graph) ∧
    ∀ others, (graph == graphAfter others) = true ↔ pairs = pairsAfter others := by
  intro graph pairs
  have tidy : graph.Tidy := tidy_graphAfter changes
  have same : graph.pairs = pairs := pairs_graphAfter changes
  rw [← same]
  refine ⟨fun source target => ⟨DependencyGraph.mem_dependents, tidy.mem_dependees, Iff.rfl⟩,
    fun name => ⟨Adjacency.nodup_toList_neighbours _ name,
      Adjacency.nodup_toList_neighbours _ name⟩,
    ⟨tidy.forward, tidy.backward⟩, ?_, ?_, tidy.dependeeCount_eq,
    ⟨tidy.finite, tidy.size, ?_⟩, ?_, ?_⟩
  · intro source
    rw [DependencyGraph.hasDependents, tidy.forward.contains_iff]
    exact exists_congr fun target =>
      Std.ExtTreeSet.mem_toList.symm.trans DependencyGraph.mem_dependents
  · intro target
    rw [DependencyGraph.hasDependees, tidy.backward.contains_iff]
    exact exists_congr fun source => Std.ExtTreeSet.mem_toList.symm.trans tidy.mem_dependees
  · rw [DependencyGraph.isEmpty, decide_eq_true_iff, tidy.size, Set.ncard_eq_zero tidy.finite]
  · intro listed listedChanges
    rw [foldlM_applyCounted_eq, listedChanges]
  · intro others
    rw [beq_iff_eq, ← pairs_graphAfter others]
    constructor
    · intro equal
      rw [equal]
    · exact tidy.eq_of_pairs_eq (tidy_graphAfter others)

end GraphChange

end Reckon
