import Reckon.Cell
import Reckon.DependencyGraph
import Reckon.RecalcOrder
import Reckon.Sheet.Error

/-!
Sheets: named cells that are recalculated on every edit. An edit is planned
before anything is changed, so that it either takes effect as a whole, with every
cell that depends on it recalculated, or leaves the sheet as it was.
-/

namespace Reckon

/-- A sheet of cells. Only cells that are not empty are stored, and the graph
has a pair `(source, target)` where the formula of `target` mentions `source`. -/
structure Sheet where
  cells : Std.ExtTreeMap String Cell
  graph : DependencyGraph
  rules : NameRules
  version : String
  changed : Bool

namespace Sheet

def defaultVersion : String :=
  "default"

def empty (rules : NameRules) (version : String) : Sheet :=
  ⟨∅, .empty, rules, version, false⟩

def markSaved (sheet : Sheet) : Sheet :=
  { sheet with changed := false }

/-! ## Questions -/

/-- The canonical name of a cell, if it is the name of one. -/
def resolve (sheet : Sheet) (name : String) : Except SheetError String :=
  let canonical := sheet.rules.canonical name
  if sheet.rules.forCells.accepts canonical then
    .ok canonical
  else
    .error (.invalidName name)

/-- The contents that an entered text gives, with the names in a formula understood
by the rules of the sheet. -/
def understand (sheet : Sheet) (input : String) : Except SheetError Contents :=
  (Contents.ofInput sheet.rules.forCells input).mapError .badFormula

/-- The contents stored under a canonical name; empty text where none are. -/
def storedContents (sheet : Sheet) (name : String) : Contents :=
  match sheet.cells[name]? with
  | some cell => cell.contents
  | none => .empty

/-- The value stored under a canonical name; empty text where none is. -/
def storedValue (sheet : Sheet) (name : String) : CellValue :=
  match sheet.cells[name]? with
  | some cell => cell.value
  | none => .empty

def contents (sheet : Sheet) (name : String) : Except SheetError Contents :=
  (sheet.resolve name).map sheet.storedContents

def value (sheet : Sheet) (name : String) : Except SheetError CellValue :=
  (sheet.resolve name).map sheet.storedValue

def numberIn (sheet : Sheet) (name : String) : Option Float :=
  (sheet.cells[name]?).bind fun cell => cell.value.number?

def names (sheet : Sheet) : List String :=
  sheet.cells.keys

def storedCells (sheet : Sheet) : List Cell :=
  sheet.cells.values

def dependents (sheet : Sheet) (name : String) : Except SheetError (List String) :=
  (sheet.resolve name).map sheet.graph.dependents

/-! ## Planning an edit -/

/-- The dependents of a cell that are left once `name` no longer depends on its
old sources. -/
def keptDependents
    (graph : DependencyGraph) (name : String) (oldSources : List String)
    (cell : String) : List String :=
  if cell ∈ oldSources then
    (graph.dependents cell).filter fun target => target ≠ name
  else
    graph.dependents cell

/-- The dependents of a cell as they would be if `name`, which depends on the old
sources, depended on exactly the new ones. -/
def dependentsIf
    (graph : DependencyGraph) (name : String) (oldSources newSources : List String)
    (cell : String) : List String :=
  let kept := keptDependents graph name oldSources cell
  if cell ∈ newSources ∧ name ∉ kept then
    kept ++ [name]
  else
    kept

private theorem mem_dependents_of_mem_keptDependents
    {graph : DependencyGraph} {name : String} {oldSources : List String}
    {cell target : String}
    (kept : target ∈ keptDependents graph name oldSources cell) :
    target ∈ graph.dependents cell := by
  unfold keptDependents at kept
  split at kept
  · exact (List.mem_filter.1 kept).1
  · exact kept

theorem mem_dependentsIf
    {graph : DependencyGraph} {name : String} {oldSources newSources : List String}
    {cell target : String} :
    target ∈ dependentsIf graph name oldSources newSources cell ↔
      target ∈ keptDependents graph name oldSources cell ∨
        (target = name ∧ cell ∈ newSources) := by
  unfold dependentsIf
  dsimp only
  split
  · next appended =>
      rw [List.mem_append, List.mem_singleton]
      simp only [appended.1, and_true]
  · next unchanged =>
      constructor
      · exact Or.inl
      · rintro (kept | ⟨rfl, listed⟩)
        · exact kept
        · exact Classical.byContradiction fun absent => unchanged ⟨listed, absent⟩

theorem mem_of_mem_dependentsIf
    {graph : DependencyGraph} {name : String} {oldSources newSources : List String}
    {cell target : String}
    (depends : target ∈ dependentsIf graph name oldSources newSources cell) :
    target ∈ name :: graph.targets := by
  rcases mem_dependentsIf.1 depends with kept | ⟨rfl, _⟩
  · exact List.mem_cons_of_mem _ <|
      DependencyGraph.mem_targets_of_mem_dependents <|
        mem_dependents_of_mem_keptDependents kept
  · exact List.mem_cons_self

/-- The cells to recalculate, in order, if `name` depended on exactly the given
sources. -/
def orderIf
    (graph : DependencyGraph) (name : String) (sources : List String) :
    Except CycleDetected (List String) :=
  recalcOrder (dependentsIf graph name (graph.dependees name) sources) name
    (name :: graph.targets) fun cell reached => by
      cases reached with
      | start => exact List.mem_cons_self
      | step _ depends => exact mem_of_mem_dependentsIf depends

/-- The cells to recalculate once `name` holds the contents; contents by which a
cell would depend on itself are refused. -/
def plan (sheet : Sheet) (name : String) (contents : Contents) :
    Except SheetError (List String) :=
  (orderIf sheet.graph name contents.names).mapError fun _ =>
    .circularDependency name

/-! ## Carrying out an edit -/

/-- The sheet in which a cell holds new contents, before any value is computed
anew. A cell that is there already keeps its value until then. -/
def install (sheet : Sheet) (name : String) (contents : Contents) : Sheet :=
  { sheet with
    graph := sheet.graph.replaceDependees name contents.names
    cells :=
      if contents.isEmpty then
        sheet.cells.erase name
      else
        match sheet.cells[name]? with
        | some cell => sheet.cells.insert name { cell with contents := contents }
        | none => sheet.cells.insert name (.new name contents) }

def recompute (sheet : Sheet) (name : String) : Sheet :=
  match sheet.cells[name]? with
  | none => sheet
  | some cell =>
      { sheet with
        cells := sheet.cells.insert name
          { cell with value := cell.contents.value sheet.numberIn } }

/-- The answer to a question about the sheet, which leaves the sheet as it is. -/
def ask {α : Type} (question : Sheet → Except SheetError α) :
    EStateM SheetError Sheet α := fun sheet =>
  match question sheet with
  | .ok answer => .ok answer sheet
  | .error refusal => .error refusal sheet

/-- An edit: a cell gets new contents, and everything that depends on it is
recalculated. The result has the edited cell and all cells that depend on it, each
after those it depends on. An edit without contents is refused. -/
def edit (name : String) (input : Option String) :
    EStateM SheetError Sheet (List String) := do
  let some input := input | throw (.nullContent name)
  let canonical ← ask fun sheet => sheet.resolve name
  let contents ← ask fun sheet => sheet.understand input
  let order ← ask fun sheet => sheet.plan canonical contents
  modify fun sheet => sheet.install canonical contents
  for cell in order do
    modify fun sheet => sheet.recompute cell
  modify fun sheet => { sheet with changed := true }
  return order

/-- The sheet after an edit and the cells that were recalculated, or why the edit
is refused. -/
def set (sheet : Sheet) (name : String) (input : Option String) :
    Except SheetError (Sheet × List String) :=
  match (edit name input).run sheet with
  | .ok order after => .ok (after, order)
  | .error refusal _ => .error refusal

end Sheet

end Reckon
