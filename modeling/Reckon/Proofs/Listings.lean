import Mathlib.Data.List.Perm.Basic
import Reckon.Proofs.Edits
import Reckon.Proofs.GraphEquality
import Reckon.Proofs.SavedSheets
import Reckon.Proofs.SetTraversal
import Reckon.Proofs.StoreAndGraph

/-!
Listings. A set or a table that keeps no order can be listed in any order, and in another
one each time. An edit that works with such listings does what it does with sorted ones;
and names, dependents and the text of a sheet are sorted, which takes the order of the
listing away again.
-/

namespace Reckon

/-- A way to list the names next to a name in a graph and the cells of a sheet: all of
them, each once, and in an order that need not be the same for any two of them. -/
structure Listing where
  dependents : DependencyGraph → String → List String
  dependees : DependencyGraph → String → List String
  entries : Std.ExtTreeMap String Cell → List (String × Cell)
  dependents_perm : ∀ graph source, (dependents graph source).Perm (graph.dependents source)
  dependees_perm : ∀ graph target, (dependees graph target).Perm (graph.dependees target)
  entries_perm : ∀ cells, (entries cells).Perm cells.toList

namespace Listing

def reversed : Listing where
  dependents graph source := (graph.dependents source).reverse
  dependees graph target := (graph.dependees target).reverse
  entries cells := cells.toList.reverse
  dependents_perm _ _ := List.reverse_perm _
  dependees_perm _ _ := List.reverse_perm _
  entries_perm _ := List.reverse_perm _

variable (listing : Listing)

/-! ## Planning an edit -/

/-- The dependents of a cell that are left once `name` no longer depends on its old
sources. -/
def keptDependents
    (graph : DependencyGraph) (name : String) (oldSources : List String) (cell : String) :
    List String :=
  if cell ∈ oldSources then
    (listing.dependents graph cell).filter fun target => target ≠ name
  else
    listing.dependents graph cell

/-- The dependents of a cell as they would be if `name`, which depends on the old sources,
depended on exactly the new ones. -/
def dependentsIf
    (graph : DependencyGraph) (name : String) (oldSources newSources : List String)
    (cell : String) : List String :=
  let kept := listing.keptDependents graph name oldSources cell
  if cell ∈ newSources ∧ name ∉ kept then
    kept ++ [name]
  else
    kept

private theorem keptDependents_perm
    {oldSources others : List String} (same : oldSources.Perm others)
    (graph : DependencyGraph) (name cell : String) :
    (listing.keptDependents graph name oldSources cell).Perm
      (Sheet.keptDependents graph name others cell) := by
  have listed := listing.dependents_perm graph cell
  rw [keptDependents, Sheet.keptDependents]
  by_cases old : cell ∈ oldSources
  · rw [if_pos old, if_pos (same.mem_iff.1 old)]
    exact listed.filter _
  · rw [if_neg old, if_neg (mt same.mem_iff.2 old)]
    exact listed

theorem dependentsIf_perm
    {oldSources others : List String} (same : oldSources.Perm others)
    (graph : DependencyGraph) (name : String) (newSources : List String) (cell : String) :
    (listing.dependentsIf graph name oldSources newSources cell).Perm
      (Sheet.dependentsIf graph name others newSources cell) := by
  have kept := listing.keptDependents_perm same graph name cell
  have sameTest : (cell ∈ newSources ∧ name ∉ listing.keptDependents graph name oldSources cell) ↔
      (cell ∈ newSources ∧ name ∉ Sheet.keptDependents graph name others cell) := by
    rw [kept.mem_iff]
  rw [dependentsIf, Sheet.dependentsIf]
  by_cases added : cell ∈ newSources ∧ name ∉ listing.keptDependents graph name oldSources cell
  · rw [if_pos added, if_pos (sameTest.1 added)]
    exact kept.append_right [name]
  · rw [if_neg added, if_neg (mt sameTest.2 added)]
    exact kept

/-- The cells to recalculate, in order, if `name` depended on exactly the given sources. -/
def orderIf (graph : DependencyGraph) (name : String) (sources : List String) :
    Except CycleDetected (List String) :=
  recalcOrder (listing.dependentsIf graph name (listing.dependees graph name) sources) name
    (name :: graph.targets) fun cell reached => by
      cases reached with
      | start => exact List.mem_cons_self
      | step _ depends =>
          have listed := listing.dependentsIf_perm (listing.dependees_perm graph name) graph name
          exact Sheet.mem_of_mem_dependentsIf ((listed sources _).mem_iff.1 depends)

def plan (sheet : Sheet) (name : String) (contents : Contents) :
    Except SheetError (List String) :=
  (listing.orderIf sheet.graph name contents.names).mapError fun _ =>
    .circularDependency name

theorem plan_eq (sheet : Sheet) (name : String) (contents : Contents) :
    listing.plan sheet name contents = sheet.plan name contents := by
  have sameOrder : listing.orderIf sheet.graph name contents.names =
      Sheet.orderIf sheet.graph name contents.names := by
    apply recalcOrder_congr
    intro cell target
    have listed := listing.dependees_perm sheet.graph name
    exact (listing.dependentsIf_perm listed sheet.graph name contents.names cell).mem_iff
  rw [plan, sameOrder, Sheet.plan]

/-! ## Carrying out an edit -/

def replaceDependees
    (graph : DependencyGraph) (target : String) (sources : List String) : DependencyGraph :=
  let cleared :=
    (listing.dependees graph target).foldl (fun rest source => rest.remove source target) graph
  sources.foldl (fun grown source => grown.add source target) cleared

/-- In whatever order old pairs are removed, the same pairs are left, and these settle the
graph. -/
theorem replaceDependees_eq
    {graph : DependencyGraph} (tidy : graph.Tidy) (target : String) (sources : List String) :
    listing.replaceDependees graph target sources = graph.replaceDependees target sources := by
  have listed : listing.replaceDependees graph target sources =
      graph.exchange (fun source => (source, target)) (listing.dependees graph target) sources := by
    rw [replaceDependees, DependencyGraph.exchange, DependencyGraph.addAll,
      DependencyGraph.removeAll, List.foldl_map, List.foldl_map]
  rw [listed, DependencyGraph.replaceDependees_eq]
  exact tidy.exchange_eq_of_perm _ (listing.dependees_perm graph target) sources

def install (sheet : Sheet) (name : String) (contents : Contents) : Sheet :=
  { sheet.install name contents with
    graph := listing.replaceDependees sheet.graph name contents.names }

private theorem install_eq
    {sheet : Sheet} (tidy : sheet.graph.Tidy) (name : String) (contents : Contents) :
    listing.install sheet name contents = sheet.install name contents := by
  rw [install, listing.replaceDependees_eq tidy]
  rfl

/-- An edit in which everything without an order is listed as the listing has it. -/
def edit (name : String) (input : Option String) : EStateM SheetError Sheet (List String) := do
  let some input := input | throw (.nullContent name)
  let canonical ← Sheet.ask fun sheet => sheet.resolve name
  let contents ← Sheet.ask fun sheet => sheet.understand input
  let order ← Sheet.ask fun sheet => listing.plan sheet canonical contents
  modify fun sheet => listing.install sheet canonical contents
  for cell in order do
    modify fun sheet => sheet.recompute cell
  modify fun sheet => { sheet with changed := true }
  return order

theorem run_edit
    {sheet : Sheet} (tidy : sheet.graph.Tidy) (name : String) (input : Option String) :
    (listing.edit name input).run sheet = (Sheet.edit name input).run sheet := by
  cases input with
  | none => rfl
  | some text =>
      simp only [edit, Sheet.edit, EStateM.run_bind, Sheet.run_ask, plan_eq]
      cases sheet.resolve name with
      | error refusal => rfl
      | ok canonical =>
          dsimp only
          cases sheet.understand text with
          | error refusal => rfl
          | ok contents =>
              dsimp only
              cases sheet.plan canonical contents with
              | error refusal => rfl
              | ok order => simp only [EStateM.run_modify, listing.install_eq tidy]

/-! ## Sorted lists -/

/-- Sorting by keys of which no two are the same leaves one order. -/
theorem mergeSort_eq_of_perm
    {α : Type} (key : α → String) {listed ascending : List α} (perm : listed.Perm ascending)
    (sorted : (ascending.map key).Pairwise (· < ·)) :
    listed.mergeSort (fun left right => decide (key left ≤ key right)) = ascending := by
  have distinct : (ascending.map key).Nodup := sorted.imp fun less => less.ne
  have rising : ascending.Pairwise fun left right => key left ≤ key right :=
    (List.pairwise_map.1 sorted).imp le_of_lt
  have samePerm :=
    (List.mergeSort_perm listed fun left right => decide (key left ≤ key right)).trans perm
  have ordered : (listed.mergeSort fun left right => decide (key left ≤ key right)).Pairwise
      fun left right => decide (key left ≤ key right) = true := by
    apply List.pairwise_mergeSort
    · intro first second third below above
      rw [decide_eq_true_eq] at below above ⊢
      exact le_trans below above
    · intro left right
      rw [Bool.or_eq_true, decide_eq_true_eq, decide_eq_true_eq]
      exact le_total (key left) (key right)
  refine List.Perm.eq_of_pairwise ?_ (ordered.imp of_decide_eq_true) rising samePerm
  intro left right listedLeft listedRight below above
  have sameKey : key left = key right := le_antisymm below above
  exact List.inj_on_of_nodup_map distinct (samePerm.mem_iff.1 listedLeft) listedRight sameKey

def names (sheet : Sheet) : List String :=
  ((listing.entries sheet.cells).map Prod.fst).mergeSort fun left right => decide (left ≤ right)

theorem names_eq (sheet : Sheet) : listing.names sheet = sheet.names := by
  have perm : ((listing.entries sheet.cells).map Prod.fst).Perm sheet.names := by
    rw [Sheet.names, ← Std.ExtTreeMap.map_fst_toList_eq_keys]
    exact (listing.entries_perm sheet.cells).map Prod.fst
  apply mergeSort_eq_of_perm (fun name => name) perm
  rw [List.map_id']
  exact sheet.pairwise_names

/-- The cells whose formulas mention a cell, sorted. -/
def dependentsOf (sheet : Sheet) (name : String) : Except SheetError (List String) :=
  (sheet.resolve name).map fun canonical =>
    (listing.dependents sheet.graph canonical).mergeSort fun left right => decide (left ≤ right)

theorem dependentsOf_eq (sheet : Sheet) (name : String) :
    listing.dependentsOf sheet name = sheet.dependents name := by
  apply congrArg (Except.map · (sheet.resolve name))
  funext canonical
  apply mergeSort_eq_of_perm (fun name => name) (listing.dependents_perm sheet.graph canonical)
  rw [List.map_id']
  exact sheet.graph.pairwise_dependents canonical

def storedCells (sheet : Sheet) : List Cell :=
  ((listing.entries sheet.cells).map Prod.snd).mergeSort fun left right =>
    decide (left.name ≤ right.name)

private theorem storedCells_eq {sheet : Sheet} (coherent : sheet.Coherent) :
    listing.storedCells sheet = sheet.storedCells := by
  have perm : ((listing.entries sheet.cells).map Prod.snd).Perm sheet.storedCells := by
    rw [Sheet.storedCells, Sheet.values_eq_map_toList]
    exact (listing.entries_perm sheet.cells).map Prod.snd
  have named : sheet.storedCells.map Cell.name = sheet.names := by
    rw [Sheet.storedCells, Sheet.values_eq_map_toList, List.map_map, Sheet.names,
      ← Std.ExtTreeMap.map_fst_toList_eq_keys]
    apply List.map_congr_left
    intro entry listed
    exact coherent.keyed entry.1 entry.2 (Std.ExtTreeMap.mem_toList_iff_getElem?_eq_some.1 listed)
  apply mergeSort_eq_of_perm Cell.name perm
  rw [named]
  exact sheet.pairwise_names

def savedText (sheet : Sheet) : String :=
  SheetFile.write ⟨sheet.version, (listing.storedCells sheet).map fun cell =>
    ⟨cell.name, some cell.contents.inputText⟩⟩

theorem savedText_eq {sheet : Sheet} (coherent : sheet.Coherent) :
    listing.savedText sheet = sheet.savedText := by
  rw [savedText, listing.storedCells_eq coherent]
  rfl

end Listing

end Reckon
