import Std.Data.ExtTreeMap

/-!
The order of recalculation: a changed cell and every cell that depends on it,
directly or through others, each after the cells it depends on.

The cells are found by a depth-first search that visits the dependents of a cell
in the order of their names. A cell is finished when everything that depends on
it is, so that the cells, the last finished first, are in the wanted order. A
cell that is reached again before it is finished closes a cycle; a finished one
needs no second visit, even where the same name is listed twice.
-/

namespace Reckon

-- Sums of natural numbers are those of the core library, whatever else is imported.
attribute [local instance (high)] Zero.ofOfNat0

/-- The cells that a change of `start` can reach through dependents. -/
inductive Reaches (dependentsOf : String → List String) (start : String) :
    String → Prop where
  | start : Reaches dependentsOf start start
  | step {source target : String}
      (reached : Reaches dependentsOf start source)
      (depends : target ∈ dependentsOf source) :
      Reaches dependentsOf start target

/-- A cycle was found, and `cell` is where it closes. -/
structure CycleDetected where
  cell : String
deriving DecidableEq

namespace RecalcOrder

/-- Whether a visited cell is finished. -/
inductive Mark where
  | inProgress
  | done
deriving DecidableEq

abbrev Marks := Std.ExtTreeMap String Mark

/-- A cell in progress and those of its dependents that are still to be visited,
all of them reachable from the start. -/
structure Frame (dependentsOf : String → List String) (start : String) where
  cell : String
  remaining : List { target : String // Reaches dependentsOf start target }

variable {dependentsOf : String → List String} {start : String}

/-- The list with a name before the first of its names that does not come before it. -/
def insertInOrder (name : String) : List String → List String
  | [] => [name]
  | first :: rest =>
      if name ≤ first then name :: first :: rest else first :: insertInOrder name rest

/-- The dependents of a cell in the order of their names, each as often as it is
listed. -/
def orderedDependents
    (dependentsOf : String → List String) (cell : String) : List String :=
  (dependentsOf cell).foldr insertInOrder []

private theorem mem_insertInOrder {name other : String} {names : List String} :
    other ∈ insertInOrder name names ↔ other = name ∨ other ∈ names := by
  induction names with
  | nil => simp [insertInOrder]
  | cons first rest inductionHypothesis =>
      rw [insertInOrder]
      by_cases before : name ≤ first
      · rw [if_pos before, List.mem_cons]
      · rw [if_neg before, List.mem_cons, inductionHypothesis, List.mem_cons, or_left_comm]

theorem mem_orderedDependents {cell target : String} :
    target ∈ orderedDependents dependentsOf cell ↔ target ∈ dependentsOf cell := by
  rw [orderedDependents]
  induction dependentsOf cell with
  | nil => rfl
  | cons first rest inductionHypothesis =>
      rw [List.foldr_cons, mem_insertInOrder, inductionHypothesis, List.mem_cons]

def Frame.enter (cell : { cell : String // Reaches dependentsOf start cell }) :
    Frame dependentsOf start :=
  ⟨cell.val, (orderedDependents dependentsOf cell.val).attach.map fun target =>
    ⟨target.val, .step cell.property (mem_orderedDependents.1 target.property)⟩⟩

@[simp]
theorem Frame.length_enter
    (cell : { cell : String // Reaches dependentsOf start cell }) :
    (Frame.enter cell).remaining.length =
      (orderedDependents dependentsOf cell.val).length := by
  simp [Frame.enter]

/-- The work that the cells not visited yet may still bring: each is entered and
left once, and each of its dependents is looked at once. -/
def unvisitedWork
    (dependentsOf : String → List String) (cells : List String) (marks : Marks) :
    Nat :=
  (cells.map fun cell =>
    if marks.contains cell then
      0
    else
      (orderedDependents dependentsOf cell).length + 2).sum

/-- The work on the stack: each frame is left once, and each remaining dependent
is looked at once. -/
def pendingWork (stack : List (Frame dependentsOf start)) : Nat :=
  (stack.map fun frame => frame.remaining.length + 1).sum

private theorem contains_insert_of_contains
    {marks : Marks} {visited : String} (known : marks.contains visited = true)
    (cell : String) (mark : Mark) :
    (marks.insert cell mark).contains visited = true := by
  simp [Std.ExtTreeMap.contains_insert, known]

theorem unvisitedWork_insert_le
    (dependentsOf : String → List String)
    (cells : List String) (marks : Marks) (cell : String) (mark : Mark) :
    unvisitedWork dependentsOf cells (marks.insert cell mark) ≤
      unvisitedWork dependentsOf cells marks := by
  induction cells with
  | nil => exact Nat.le_refl _
  | cons first rest inductionHypothesis =>
      simp only [unvisitedWork, List.map_cons, List.sum_cons] at *
      by_cases visited : marks.contains first = true
      · simp only [visited, contains_insert_of_contains visited, if_true]
        omega
      · rw [if_neg visited]
        split <;> omega

theorem unvisitedWork_insert_lt
    (dependentsOf : String → List String)
    {cells : List String} {marks : Marks} {cell : String}
    (member : cell ∈ cells) (unvisited : marks[cell]? = none) (mark : Mark) :
    unvisitedWork dependentsOf cells (marks.insert cell mark) +
        (orderedDependents dependentsOf cell).length + 2 ≤
      unvisitedWork dependentsOf cells marks := by
  have absent : ¬ marks.contains cell = true := by
    rw [Std.ExtTreeMap.contains_eq_isSome_getElem?, unvisited]
    exact Bool.false_ne_true
  induction cells with
  | nil => simp at member
  | cons first rest inductionHypothesis =>
      have smaller := unvisitedWork_insert_le dependentsOf rest marks cell mark
      simp only [unvisitedWork, List.map_cons, List.sum_cons] at *
      by_cases same : cell = first
      · subst same
        rw [if_neg absent, if_pos Std.ExtTreeMap.contains_insert_self]
        omega
      · have bound := inductionHypothesis ((List.mem_cons.1 member).resolve_left same)
        by_cases visited : marks.contains first = true
        · simp only [visited, contains_insert_of_contains visited, if_true]
          omega
        · rw [if_neg visited]
          split <;> omega

set_option linter.unusedVariables false in
/-- The search, from the cells visited so far, the cells in progress with the
latest first, and the finished cells with the latest first. -/
def search
    (cells : List String)
    (bounded : ∀ cell, Reaches dependentsOf start cell → cell ∈ cells)
    (marks : Marks) (stack : List (Frame dependentsOf start))
    (finished : List String) :
    Except CycleDetected (List String) :=
  match stack with
  | [] => .ok finished
  | ⟨cell, []⟩ :: below =>
      search cells bounded (marks.insert cell .done) below (cell :: finished)
  | ⟨cell, target :: remaining⟩ :: below =>
      match unvisited : marks[target.val]? with
      | some .inProgress => .error ⟨target.val⟩
      | some .done =>
          search cells bounded marks (⟨cell, remaining⟩ :: below) finished
      | none =>
          search cells bounded (marks.insert target.val .inProgress)
            (.enter target :: ⟨cell, remaining⟩ :: below) finished
termination_by unvisitedWork dependentsOf cells marks + pendingWork stack
decreasing_by
  · have smaller := unvisitedWork_insert_le dependentsOf cells marks cell .done
    simp [pendingWork]
    omega
  · simp [pendingWork]
  · have smaller := unvisitedWork_insert_lt dependentsOf
      (bounded target.val target.property) unvisited .inProgress
    simp [pendingWork]
    omega

end RecalcOrder

/-- The changed cell and everything that depends on it, each cell after those it
depends on, where `cells` lists at least the cells that the change reaches. -/
def recalcOrder
    (dependentsOf : String → List String) (start : String) (cells : List String)
    (bounded : ∀ cell, Reaches dependentsOf start cell → cell ∈ cells) :
    Except CycleDetected (List String) :=
  RecalcOrder.search cells bounded
    (Std.ExtTreeMap.insert ∅ start .inProgress) [.enter ⟨start, .start⟩] []

/-- The dependents that a table gives, in which a cell that is not listed has none. -/
def dependentsInTable (table : List (String × List String)) (cell : String) : List String :=
  (table.lookup cell).getD []

theorem mem_of_reaches_dependentsInTable
    {table : List (String × List String)} {start cell : String}
    (reached : Reaches (dependentsInTable table) start cell) :
    cell ∈ start :: table.flatMap (·.2) := by
  cases reached with
  | start => exact List.mem_cons_self
  | @step source target _ depends =>
      apply List.mem_cons_of_mem
      rw [dependentsInTable] at depends
      cases listed : table.lookup source with
      | none => simp [listed] at depends
      | some targets =>
          rw [listed, Option.getD_some] at depends
          obtain ⟨initial, rest, equality, _⟩ := List.lookup_eq_some_iff.1 listed
          subst equality
          exact List.mem_flatMap.2 ⟨(source, targets), by simp, depends⟩

/-- The order of recalculation for dependents given as a table. -/
def recalcOrderOfTable (table : List (String × List String)) (start : String) :
    Except CycleDetected (List String) :=
  recalcOrder (dependentsInTable table) start (start :: table.flatMap (·.2)) fun _ =>
    mem_of_reaches_dependentsInTable

end Reckon
