import Mathlib.Data.List.Sort
import Mathlib.Data.String.Basic
import Reckon.Proofs.RecursiveSearch

/-!
What the search for the order of recalculation sees of the dependents of a cell: which
names they are, but neither in which order they are listed nor how often. It is the
recursive search that visits them in the order of their names, each once; so dependents
that come out of an unordered set are as good as sorted ones.
-/

namespace Reckon

namespace RecalcOrder

/-! ## Dependents in order -/

/-- The dependents of a cell in the order of their names, each once. -/
def distinctDependents (dependentsOf : String → List String) (cell : String) : List String :=
  (Std.ExtTreeSet.ofList (dependentsOf cell)).toList

section

variable {dependentsOf other : String → List String} {cell target : String}

private theorem mem_distinctDependents :
    target ∈ distinctDependents dependentsOf cell ↔ target ∈ dependentsOf cell := by
  simp [distinctDependents]

private theorem pairwise_distinctDependents (dependentsOf : String → List String) (cell : String) :
    (distinctDependents dependentsOf cell).Pairwise (· < ·) := by
  have ascending : (distinctDependents dependentsOf cell).Pairwise fun earlier later =>
      compare earlier later = .lt := Std.ExtTreeSet.ordered_toList
  exact ascending.imp compareOfLessAndEq_eq_lt.1

private theorem distinctDependents_congr
    (same : ∀ cell target, target ∈ dependentsOf cell ↔ target ∈ other cell) :
    distinctDependents dependentsOf = distinctDependents other := by
  funext cell
  apply congrArg Std.ExtTreeSet.toList
  apply Std.ExtTreeSet.ext_mem
  intro target
  simpa using same cell target

private theorem insertInOrder_eq_orderedInsert (name : String) (names : List String) :
    insertInOrder name names = names.orderedInsert (· ≤ ·) name := by
  induction names with
  | nil => rfl
  | cons first rest inductionHypothesis =>
      rw [insertInOrder, List.orderedInsert_cons, inductionHypothesis]

theorem orderedDependents_eq_insertionSort (dependentsOf : String → List String) (cell : String) :
    orderedDependents dependentsOf cell = (dependentsOf cell).insertionSort (· ≤ ·) := by
  have sameInsertion : insertInOrder = List.orderedInsert (· ≤ ·) := by
    funext name names
    exact insertInOrder_eq_orderedInsert name names
  rw [orderedDependents, sameInsertion, List.insertionSort]

private theorem pairwise_orderedDependents (dependentsOf : String → List String) (cell : String) :
    (orderedDependents dependentsOf cell).Pairwise (· ≤ ·) := by
  rw [orderedDependents_eq_insertionSort]
  exact List.pairwise_insertionSort (· ≤ ·) (dependentsOf cell)

end

/-! ## Repetitions -/

namespace Visits

section

variable {listed : String → List String} {path rest finished : List String} {name : String}
  {result : Except CycleDetected (List String)}

private theorem of_known
    (notInProgress : name ∉ path) (known : name ∈ finished)
    (visits : Visits listed path (name :: rest) finished result) :
    Visits listed path rest finished result := by
  cases visits with
  | cycle inProgress => exact absurd inProgress notInProgress
  | known _ _ later => exact later
  | failed _ unknown => exact absurd known unknown
  | visited _ unknown => exact absurd known unknown

private theorem of_repeated {others : List String}
    (skip : ∀ {finished result}, Visits listed path rest finished result →
      Visits listed path (name :: others) finished result)
    (visits : Visits listed path (name :: rest) finished result) :
    Visits listed path (name :: others) finished result := by
  cases visits with
  | cycle inProgress => exact .cycle inProgress
  | known _ _ later => exact skip later
  | failed notInProgress unknown inner => exact .failed notInProgress unknown inner
  | visited notInProgress unknown inner later =>
      have others := of_known notInProgress List.mem_cons_self (skip later)
      exact .visited notInProgress unknown inner others

private theorem cons_congr {others : List String}
    (same : ∀ {finished result}, Visits listed path rest finished result →
      Visits listed path others finished result)
    (visits : Visits listed path (name :: rest) finished result) :
    Visits listed path (name :: others) finished result := by
  cases visits with
  | cycle inProgress => exact .cycle inProgress
  | known notInProgress known later => exact .known notInProgress known (same later)
  | failed notInProgress unknown inner => exact .failed notInProgress unknown inner
  | visited notInProgress unknown inner later =>
      exact .visited notInProgress unknown inner (same later)

end

/-- Names in order may as well be listed once each. -/
theorem of_ascending
    {listed : String → List String} {path names distinct finished : List String}
    {result : Except CycleDetected (List String)}
    (ascending : names.Pairwise (· ≤ ·)) (strict : distinct.Pairwise (· < ·))
    (same : ∀ name, name ∈ names ↔ name ∈ distinct)
    (visits : Visits listed path names finished result) :
    Visits listed path distinct finished result := by
  induction names generalizing distinct finished result with
  | nil =>
      have nothing : distinct = [] :=
        List.eq_nil_iff_forall_not_mem.2 fun name member =>
          List.not_mem_nil ((same name).2 member)
      rw [nothing]
      exact visits
  | cons first rest inductionHypothesis =>
      obtain ⟨firstLeast, ascendingRest⟩ := List.pairwise_cons.1 ascending
      cases distinct with
      | nil => exact absurd ((same first).1 List.mem_cons_self) List.not_mem_nil
      | cons head others =>
          obtain ⟨headLeast, strictOthers⟩ := List.pairwise_cons.1 strict
          have sameFirst : first = head := by
            have above : head ≤ first := by
              rcases List.mem_cons.1 ((same first).1 List.mem_cons_self) with equal | later
              · exact equal.ge
              · exact (headLeast first later).le
            have below : first ≤ head := by
              rcases List.mem_cons.1 ((same head).2 List.mem_cons_self) with equal | later
              · exact equal.ge
              · exact firstLeast head later
            exact le_antisymm below above
          subst sameFirst
          by_cases repeated : first ∈ rest
          · have sameRest : ∀ name, name ∈ rest ↔ name ∈ first :: others := by
              intro name
              rw [← same name, List.mem_cons]
              constructor
              · exact Or.inr
              · rintro (rfl | later)
                · exact repeated
                · exact later
            exact of_repeated (inductionHypothesis ascendingRest strict sameRest) visits
          · have sameRest : ∀ name, name ∈ rest ↔ name ∈ others := by
              intro name
              by_cases isFirst : name = first
              · subst isFirst
                exact iff_of_false repeated fun later => lt_irrefl name (headLeast name later)
              · have members := same name
                rw [List.mem_cons, List.mem_cons] at members
                simpa only [isFirst, false_or] using members
            exact cons_congr (inductionHypothesis ascendingRest strictOthers sameRest) visits

/-- The recursion finds the same if the names listed for each cell may as well be replaced
by others. -/
theorem of_listed
    {listed others : String → List String} {path names finished : List String}
    {result : Except CycleDetected (List String)}
    (replaced : ∀ {name path finished result}, Visits others path (listed name) finished result →
      Visits others path (others name) finished result)
    (visits : Visits listed path names finished result) :
    Visits others path names finished result := by
  induction visits with
  | done => exact .done
  | cycle inProgress => exact .cycle inProgress
  | known notInProgress known _ inductionHypothesis =>
      exact .known notInProgress known inductionHypothesis
  | failed notInProgress unknown _ inductionHypothesis =>
      exact .failed notInProgress unknown (replaced inductionHypothesis)
  | visited notInProgress unknown _ _ innerHypothesis laterHypothesis =>
      exact .visited notInProgress unknown (replaced innerHypothesis) laterHypothesis

private theorem distinct_of_ordered
    {dependentsOf : String → List String} {path names finished : List String}
    {result : Except CycleDetected (List String)}
    (visits : Visits (orderedDependents dependentsOf) path names finished result) :
    Visits (distinctDependents dependentsOf) path names finished result := by
  apply of_listed _ visits
  intro name path finished result inner
  apply of_ascending (pairwise_orderedDependents dependentsOf name)
    (pairwise_distinctDependents dependentsOf name) _ inner
  intro target
  rw [mem_orderedDependents, mem_distinctDependents]

end Visits

end RecalcOrder

/-! ## The order of recalculation -/

section

open RecalcOrder

variable {dependentsOf other : String → List String} {start : String}
  {cells otherCells : List String}
  {bounded : ∀ cell, Reaches dependentsOf start cell → cell ∈ cells}
  {otherBounded : ∀ cell, Reaches other start cell → cell ∈ otherCells}

theorem visits_distinctDependents_recalcOrder :
    Visits (distinctDependents dependentsOf) [] [start] []
      (recalcOrder dependentsOf start cells bounded) :=
  (visits_recalcOrder cells bounded).distinct_of_ordered

/-- Two tables with the same dependents of each cell, however they list them, give the same
order of recalculation or report the same cell on a cycle. -/
theorem recalcOrder_congr
    (same : ∀ cell target, target ∈ dependentsOf cell ↔ target ∈ other cell) :
    recalcOrder dependentsOf start cells bounded =
      recalcOrder other start otherCells otherBounded := by
  have visits : Visits (distinctDependents other) [] [start] []
      (recalcOrder dependentsOf start cells bounded) := by
    rw [← distinctDependents_congr same]
    exact visits_distinctDependents_recalcOrder
  exact visits.unique visits_distinctDependents_recalcOrder

/-- The order of recalculation, or the cell that is reported, is what the recursive search
finds that visits the dependents of each cell in the order of their names and each of them
once. So it does not change with the order in which they are listed, nor with how often. -/
theorem recalcOrder_eq_iff_visits
    (dependentsOf : String → List String) (start : String) (cells : List String)
    (bounded : ∀ cell, Reaches dependentsOf start cell → cell ∈ cells) :
    (∀ cell, (distinctDependents dependentsOf cell).Pairwise (· < ·) ∧
      ∀ target, target ∈ distinctDependents dependentsOf cell ↔ target ∈ dependentsOf cell) ∧
    (∀ result, recalcOrder dependentsOf start cells bounded = result ↔
      Visits (distinctDependents dependentsOf) [] [start] [] result) ∧
    ∀ (other : String → List String) (otherCells : List String)
      (otherBounded : ∀ cell, Reaches other start cell → cell ∈ otherCells),
      (∀ cell target, target ∈ other cell ↔ target ∈ dependentsOf cell) →
        recalcOrder other start otherCells otherBounded =
          recalcOrder dependentsOf start cells bounded := by
  refine ⟨fun cell => ⟨pairwise_distinctDependents dependentsOf cell,
    fun target => mem_distinctDependents⟩, ?_, ?_⟩
  · intro result
    have visits : Visits (distinctDependents dependentsOf) [] [start] []
        (recalcOrder dependentsOf start cells bounded) := visits_distinctDependents_recalcOrder
    constructor
    · intro found
      rw [← found]
      exact visits
    · exact visits.unique
  · intro other otherCells otherBounded same
    exact recalcOrder_congr same

/-- The last of the dependents of `A1` is listed first and once more, and so the order is found
that a table gives with each dependent listed once. -/
theorem recalcOrder_eq_iff_visits_of_repeated :
    let table := [("A1", ["C1", "B1", "C1"]), ("B1", ["D1", "D1"]), ("C1", ["D1", "B1"])]
    let tidy := [("A1", ["B1", "C1"]), ("B1", ["D1"]), ("C1", ["B1", "D1"])]
    (∀ cell target, target ∈ dependentsInTable tidy cell ↔ target ∈ dependentsInTable table cell) ∧
      recalcOrderOfTable table "A1" = .ok ["A1", "C1", "B1", "D1"] ∧
      Visits (distinctDependents (dependentsInTable table)) [] ["A1"] []
        (.ok ["A1", "C1", "B1", "D1"]) ∧
      recalcOrderOfTable tidy "A1" = recalcOrderOfTable table "A1" := by
  intro table tidy
  have sameTargets : ∀ cell target,
      target ∈ dependentsInTable tidy cell ↔ target ∈ dependentsInTable table cell := by
    intro cell target
    by_cases isFirst : cell = "A1"
    · subst isFirst
      change target ∈ ["B1", "C1"] ↔ target ∈ ["C1", "B1", "C1"]
      simp only [List.mem_cons, List.not_mem_nil, or_false]
      tauto
    · by_cases isSecond : cell = "B1"
      · subst isSecond
        change target ∈ ["D1"] ↔ target ∈ ["D1", "D1"]
        simp only [List.mem_cons, List.not_mem_nil, or_false, or_self]
      · by_cases isThird : cell = "C1"
        · subst isThird
          change target ∈ ["B1", "D1"] ↔ target ∈ ["D1", "B1"]
          simp only [List.mem_cons, List.not_mem_nil, or_false]
          exact or_comm
        · simp [dependentsInTable, table, tidy, List.lookup_cons, beq_false_of_ne isFirst,
            beq_false_of_ne isSecond, beq_false_of_ne isThird]
  have found : recalcOrderOfTable table "A1" = .ok ["A1", "C1", "B1", "D1"] := by decide +kernel
  obtain ⟨_, visits, same⟩ := recalcOrder_eq_iff_visits (dependentsInTable table) "A1" _
    fun _ => mem_of_reaches_dependentsInTable
  exact ⟨sameTargets, found, (visits _).1 found, same _ _ _ sameTargets⟩

end

end Reckon
