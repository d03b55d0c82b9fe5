import Mathlib.Algebra.GroupWithZero.Nat
import Reckon.Proofs.SetTraversal

/-!
The search for the order of recalculation as a loop. Each of its steps enters a cell, leaves
one or looks at one dependent; where finitely many cells are reached it ends, and it ends
with an order of exactly these cells in which each stands before everything that depends on
it, or else with a cell that depends on itself.
-/

namespace Reckon

open Relation

namespace RecalcOrder

/-! ## The steps of the loop -/

/-- The search between two of its steps: the marks, the cells in progress with the names
still to be visited for each, and the finished cells. -/
structure Snapshot where
  marks : Marks
  stack : List (String × List String)
  finished : List String

namespace Snapshot

def initial (dependentsOf : String → List String) (start : String) : Snapshot :=
  ⟨Std.ExtTreeMap.insert ∅ start .inProgress, [(start, orderedDependents dependentsOf start)], []⟩

def advance (dependentsOf : String → List String) (snapshot : Snapshot) :
    Snapshot ⊕ Except CycleDetected (List String) :=
  match snapshot.stack with
  | [] => .inr (.ok snapshot.finished)
  | (cell, []) :: below =>
      .inl ⟨snapshot.marks.insert cell .done, below, cell :: snapshot.finished⟩
  | (cell, target :: names) :: below =>
      match snapshot.marks[target]? with
      | some .inProgress => .inr (.error ⟨target⟩)
      | some .done => .inl { snapshot with stack := (cell, names) :: below }
      | none =>
          .inl ⟨snapshot.marks.insert target .inProgress,
            (target, orderedDependents dependentsOf target) :: (cell, names) :: below,
            snapshot.finished⟩

/-- What the search finds within a number of steps, if it ends by then. -/
def foundWithin (dependentsOf : String → List String) :
    Nat → Snapshot → Option (Except CycleDetected (List String))
  | 0, _ => none
  | steps + 1, snapshot =>
      match snapshot.advance dependentsOf with
      | .inl next => foundWithin dependentsOf steps next
      | .inr result => some result

section

variable {dependentsOf : String → List String} {snapshot next : Snapshot}
  {result : Except CycleDetected (List String)} {steps : Nat}

private theorem foundWithin_of_advance_eq_inr (ends : snapshot.advance dependentsOf = .inr result) :
    foundWithin dependentsOf (steps + 1) snapshot = some result := by
  rw [foundWithin, ends]

private theorem foundWithin_of_advance_eq_inl (goesOn : snapshot.advance dependentsOf = .inl next) :
    foundWithin dependentsOf (steps + 1) snapshot = foundWithin dependentsOf steps next := by
  rw [foundWithin, goesOn]

end

end Snapshot

section

variable {dependentsOf : String → List String} {start : String}

private theorem pendingWork_cons (frame : Frame dependentsOf start)
    (below : List (Frame dependentsOf start)) :
    pendingWork (frame :: below) = frame.remaining.length + 1 + pendingWork below := by
  rw [pendingWork, List.map_cons, List.sum_cons, pendingWork]

/-- The loop ends with what the search finds, after no more steps than there is work. -/
theorem exists_foundWithin_eq_search
    {cells : List String} (bounded : ∀ cell, Reaches dependentsOf start cell → cell ∈ cells)
    (marks : Marks) (stack : List (Frame dependentsOf start)) (finished : List String) :
    ∃ steps, steps ≤ unvisitedWork dependentsOf cells marks + pendingWork stack + 1 ∧
      Snapshot.foundWithin dependentsOf steps ⟨marks, stack.map Frame.bare, finished⟩ =
        some (search cells bounded marks stack finished) := by
  fun_induction search cells bounded marks stack finished with
  | case1 marks finished => exact ⟨1, Nat.le_add_left 1 _, rfl⟩
  | case2 marks finished cell below inductionHypothesis =>
      obtain ⟨steps, enough, found⟩ := inductionHypothesis
      have less := unvisitedWork_insert_le dependentsOf cells marks cell .done
      refine ⟨steps + 1, ?_, found⟩
      rw [pendingWork_cons]
      omega
  | case3 marks finished cell target remaining below onStack =>
      refine ⟨1, Nat.le_add_left 1 _, Snapshot.foundWithin_of_advance_eq_inr ?_⟩
      simp [Snapshot.advance, Frame.bare, onStack]
  | case4 marks finished cell target remaining below known inductionHypothesis =>
      obtain ⟨steps, enough, found⟩ := inductionHypothesis
      refine ⟨steps + 1, ?_, ?_⟩
      · simp only [pendingWork_cons, List.length_cons] at enough ⊢
        omega
      · rw [Snapshot.foundWithin_of_advance_eq_inl _, found]
        simp [Snapshot.advance, Frame.bare, known]
  | case5 marks finished cell target remaining below unvisited inductionHypothesis =>
      obtain ⟨steps, enough, found⟩ := inductionHypothesis
      have less := unvisitedWork_insert_lt dependentsOf
        (bounded target.val target.property) unvisited .inProgress
      refine ⟨steps + 1, ?_, ?_⟩
      · simp only [pendingWork_cons, List.length_cons, Frame.length_enter] at enough ⊢
        omega
      · rw [List.map_cons, Frame.bare_enter] at found
        rw [Snapshot.foundWithin_of_advance_eq_inl _, found]
        simp [Snapshot.advance, Frame.bare, unvisited]

private theorem unvisitedWork_empty (cells : List String) :
    unvisitedWork dependentsOf cells ∅ =
      (cells.map fun cell => (orderedDependents dependentsOf cell).length + 2).sum := by
  simp [unvisitedWork]

private theorem length_orderedDependents (cell : String) :
    (orderedDependents dependentsOf cell).length = (dependentsOf cell).length := by
  rw [orderedDependents_eq_insertionSort, List.length_insertionSort]

/-- From its beginning the loop takes no more than two steps for each cell and one for each
dependent that is listed. -/
theorem exists_foundWithin_eq_recalcOrder
    (cells : List String) (bounded : ∀ cell, Reaches dependentsOf start cell → cell ∈ cells) :
    ∃ steps, steps ≤ (cells.map fun cell => (dependentsOf cell).length + 2).sum ∧
      Snapshot.foundWithin dependentsOf steps (.initial dependentsOf start) =
        some (recalcOrder dependentsOf start cells bounded) := by
  obtain ⟨steps, enough, found⟩ := exists_foundWithin_eq_search bounded
    (Std.ExtTreeMap.insert ∅ start .inProgress) [.enter ⟨start, .start⟩] []
  rw [List.map_singleton, Frame.bare_enter] at found
  refine ⟨steps, ?_, found⟩
  have unvisited : (∅ : Marks)[start]? = none := Std.ExtTreeMap.getElem?_empty
  have less := unvisitedWork_insert_lt dependentsOf (bounded start .start) unvisited .inProgress
  rw [unvisitedWork_empty] at less
  simp only [length_orderedDependents] at less
  simp only [pendingWork_cons, Frame.length_enter, length_orderedDependents] at enough
  have nothing : pendingWork ([] : List (Frame dependentsOf start)) = 0 := rfl
  omega

end

end RecalcOrder

/-- The loop ends, within two steps for each cell and one for each listed dependent. It fails
exactly where the start reaches a cell that depends on itself, and what it reports is such a
cell; otherwise it finds exactly the cells that the start reaches, each once, with the start
first and each before those that depend on it. -/
theorem recalcOrder_sorts_or_finds_cycle
    (dependentsOf : String → List String) (start : String) (cells : List String)
    (bounded : ∀ cell, Reaches dependentsOf start cell → cell ∈ cells) :
    let result := recalcOrder dependentsOf start cells bounded
    let reaches := ReflTransGen (Triggers dependentsOf)
    let dependsOnItself := fun cell => TransGen (Triggers dependentsOf) cell cell
    (∃ steps, steps ≤ (cells.map fun cell => (dependentsOf cell).length + 2).sum ∧
      RecalcOrder.Snapshot.foundWithin dependentsOf steps (.initial dependentsOf start) =
        some result) ∧
    ((∃ detected, result = .error detected) ↔ ∃ cell, reaches start cell ∧ dependsOnItself cell) ∧
    (∀ detected, result = .error detected →
      reaches start detected.cell ∧ dependsOnItself detected.cell) ∧
    ∀ order, result = .ok order →
      (∀ cell, cell ∈ order ↔ reaches start cell) ∧ order.Nodup ∧ order.head? = some start ∧
      ∀ source target, reaches start source → target ∈ dependentsOf source →
        order.idxOf source < order.idxOf target := by
  intro result reaches dependsOnItself
  have reported : ∀ detected, result = .error detected →
      reaches start detected.cell ∧ dependsOnItself detected.cell := by
    intro detected failed
    have sound : RecalcOrder.Sound dependentsOf start result := sound_recalcOrder
    rw [failed] at sound
    exact ⟨reaches_iff_reflTransGen.1 sound.1, sound.2⟩
  refine ⟨RecalcOrder.exists_foundWithin_eq_recalcOrder cells bounded, ?_, reported, ?_⟩
  · constructor
    · intro failed
      obtain ⟨detected, failed⟩ := failed
      exact ⟨detected.cell, reported detected failed⟩
    · intro cyclic
      obtain ⟨cell, reached, cycle⟩ := cyclic
      cases found : result with
      | error detected => exact ⟨detected, rfl⟩
      | ok order =>
          have acyclic := exists_recalcOrder_eq_ok_iff.1 ⟨order, found⟩
          exact absurd cycle (acyclic cell reached)
  · intro order found
    obtain ⟨first, ordered, members⟩ := recalcOrder_eq_ok found
    refine ⟨members, ordered.nodup, first, ?_⟩
    intro source target reached depends
    exact ordered.idxOf_lt_idxOf ((members source).2 reached) depends

/-- One cell is listed twice and does not close a cycle, and one depends on itself. -/
theorem recalcOrder_sorts_or_finds_cycle_of_tables :
    let table := [("A1", ["C1", "B1", "C1"]), ("B1", ["C1"])]
    let cyclic := [("A1", ["B1"]), ("B1", ["C1"]), ("C1", ["D1", "C1"])]
    recalcOrderOfTable table "A1" = .ok ["A1", "B1", "C1"] ∧
      ["A1", "B1", "C1"].Nodup ∧
      (∀ cell, cell ∈ ["A1", "B1", "C1"] ↔
        ReflTransGen (Triggers (dependentsInTable table)) "A1" cell) ∧
      recalcOrderOfTable cyclic "A1" = .error ⟨"C1"⟩ ∧
      ReflTransGen (Triggers (dependentsInTable cyclic)) "A1" "C1" ∧
      TransGen (Triggers (dependentsInTable cyclic)) "C1" "C1" := by
  intro table cyclic
  have found : recalcOrderOfTable table "A1" = .ok ["A1", "B1", "C1"] := by decide +kernel
  have failed : recalcOrderOfTable cyclic "A1" = .error ⟨"C1"⟩ := by decide +kernel
  obtain ⟨_, _, _, sorted⟩ := recalcOrder_sorts_or_finds_cycle (dependentsInTable table) "A1" _
    fun _ => mem_of_reaches_dependentsInTable
  obtain ⟨_, _, reported, _⟩ := recalcOrder_sorts_or_finds_cycle (dependentsInTable cyclic) "A1" _
    fun _ => mem_of_reaches_dependentsInTable
  obtain ⟨members, distinct, _⟩ := sorted _ found
  obtain ⟨reached, cycle⟩ := reported _ failed
  exact ⟨found, distinct, members, failed, reached, cycle⟩

end Reckon
