import Reckon.Proofs.Listings

/-!
Histories. What a sheet holds settles all that it will ever answer: two histories of edits
that end in the same contents can not be told apart by its values, its graph, the text that
is saved or further edits. And what a sheet holds does not depend on how unordered sets were
listed along the way, nor does anything that is asked of it later.
-/

namespace Reckon

/-- An edit, and how everything without an order is listed while it takes place. -/
structure ListedEdit where
  listing : Listing
  name : String
  input : Option String

/-- What is seen of an edit: its result, and the cells and the graph after it. -/
structure Response where
  result : Except SheetError (List String)
  cells : Std.ExtTreeMap String Cell
  graph : DependencyGraph

def Response.of (outcome : Except SheetError (List String) × Sheet) : Response :=
  ⟨outcome.1, outcome.2.cells, outcome.2.graph⟩

namespace ListedEdit

def run (listed : ListedEdit) : EStateM SheetError Sheet (List String) :=
  listed.listing.edit listed.name listed.input

def sorted (listed : ListedEdit) : EStateM SheetError Sheet (List String) :=
  Sheet.edit listed.name listed.input

end ListedEdit

namespace Sheet

def outcome (edit : EStateM SheetError Sheet (List String)) (sheet : Sheet) :
    Except SheetError (List String) × Sheet :=
  match edit.run sheet with
  | .ok order after => (.ok order, after)
  | .error refusal after => (.error refusal, after)

def responses : List (EStateM SheetError Sheet (List String)) → Sheet → List Response
  | [], _ => []
  | edit :: later, sheet =>
      .of (outcome edit sheet) :: responses later (outcome edit sheet).2

def afterListed (rules : NameRules) (version : String) (edits : List ListedEdit) : Sheet :=
  edits.foldl (fun sheet listed => (outcome listed.run sheet).2) (empty rules version)

section

variable {rules : NameRules} {version : String} {sheet other : Sheet}

/-! ## Listings make no difference -/

private theorem outcome_edit_snd (sheet : Sheet) (name : String) (input : Option String) :
    (outcome (edit name input) sheet).2 = sheet.edited name input := by
  rw [outcome, edited]
  cases (edit name input).run sheet with
  | ok order after => rfl
  | error refusal after => rfl

private theorem Reached.outcome_run (reached : Reached rules version sheet) (listed : ListedEdit) :
    outcome listed.run sheet = outcome listed.sorted sheet := by
  have sameRun : listed.run.run sheet = listed.sorted.run sheet :=
    listed.listing.run_edit reached.tidy listed.name listed.input
  rw [outcome, outcome, sameRun]

private theorem Reached.outcome_sorted (reached : Reached rules version sheet)
    (listed : ListedEdit) :
    Reached rules version (outcome listed.sorted sheet).2 := by
  rw [ListedEdit.sorted, outcome_edit_snd]
  exact reached.edited listed.name listed.input

private theorem afterListed_eq (rules : NameRules) (version : String) (edits : List ListedEdit) :
    afterListed rules version edits =
      afterEdits rules version (edits.map fun listed => (listed.name, listed.input)) := by
  have fromReached : ∀ sheet, Reached rules version sheet →
      edits.foldl (fun sheet listed => (outcome listed.run sheet).2) sheet =
        (edits.map fun listed => (listed.name, listed.input)).foldl
          (fun sheet request => sheet.edited request.1 request.2) sheet := by
    induction edits with
    | nil => exact fun _ _ => rfl
    | cons listed later inductionHypothesis =>
        intro sheet reached
        rw [List.foldl_cons, List.map_cons, List.foldl_cons, reached.outcome_run,
          ListedEdit.sorted, outcome_edit_snd]
        exact inductionHypothesis _ (reached.edited listed.name listed.input)
  exact fromReached _ .empty

/-! ## Contents settle the answers -/

private theorem Reached.outcome_alike
    (reached : Reached rules version sheet) (otherReached : Reached rules version other)
    (same : sheet.storedContents? = other.storedContents?) (listed : ListedEdit) :
    (outcome listed.sorted sheet).1 = (outcome listed.sorted other).1 ∧
      (outcome listed.sorted sheet).2.storedContents? =
        (outcome listed.sorted other).2.storedContents? := by
  have sameDecision :
      sheet.decision listed.name listed.input = other.decision listed.name listed.input := by
    apply decision_congr
    · exact reached.rules_eq.trans otherReached.rules_eq.symm
    · exact reached.graph_eq otherReached same
  rw [ListedEdit.sorted, outcome, outcome, run_edit_eq, run_edit_eq, sameDecision]
  cases other.decision listed.name listed.input with
  | error refusal => exact ⟨rfl, same⟩
  | ok decided =>
      refine ⟨rfl, ?_⟩
      rw [storedContents?_completed_eq_update, storedContents?_completed_eq_update, same]

theorem Reached.responses_alike
    (reached : Reached rules version sheet) (otherReached : Reached rules version other)
    (same : sheet.storedContents? = other.storedContents?) (edits : List ListedEdit) :
    responses (edits.map ListedEdit.run) sheet = responses (edits.map ListedEdit.sorted) other := by
  induction edits generalizing sheet other with
  | nil => rfl
  | cons listed later inductionHypothesis =>
      obtain ⟨sameResult, sameAfter⟩ := reached.outcome_alike otherReached same listed
      have reachedAfter := reached.outcome_sorted listed
      have otherReachedAfter := otherReached.outcome_sorted listed
      have sameCells :=
        reachedAfter.coherent.cells_eq otherReachedAfter.coherent sameAfter
      have sameGraph := reachedAfter.graph_eq otherReachedAfter sameAfter
      have seen :
          Response.of (outcome listed.sorted sheet) = .of (outcome listed.sorted other) := by
        rw [Response.of, Response.of, sameResult, sameCells, sameGraph]
      rw [List.map_cons, List.map_cons, responses, responses, reached.outcome_run listed, seen,
        inductionHypothesis reachedAfter otherReachedAfter sameAfter]

/-- Two histories of an empty sheet that end in the same contents end in the same cells,
with their values, and in the same graph; the same text is saved, and all further edits are
seen to do the same, one after the other. In the one history, in the questions that are
asked after it and in the further edits, everything without an order may be listed in any
order; in the other one all is sorted, and so it might as well be in the first one. -/
theorem afterListed_history_independent
    (rules : NameRules) (version : String) (first : List ListedEdit)
    (second : List (String × Option String))
    (same : (afterListed rules version first).storedContents? =
      (afterEdits rules version second).storedContents?) :
    let sheet := afterListed rules version first
    let other := afterEdits rules version second
    sheet = afterEdits rules version (first.map fun listed => (listed.name, listed.input)) ∧
    sheet.cells = other.cells ∧ sheet.graph = other.graph ∧
    (∀ listing : Listing, listing.names sheet = other.names ∧
      (∀ name, listing.dependentsOf sheet name = other.dependents name) ∧
      listing.savedText sheet = other.savedText) ∧
    ∀ further : List ListedEdit,
      responses (further.map ListedEdit.run) sheet =
        responses (further.map ListedEdit.sorted) other := by
  intro sheet other
  have sorted : sheet = _ := afterListed_eq rules version first
  have reached : Reached rules version sheet := sorted ▸ reached_afterEdits rules version _
  have otherReached : Reached rules version other := reached_afterEdits rules version second
  have sameCells : sheet.cells = other.cells :=
    reached.coherent.cells_eq otherReached.coherent same
  have saved : sheet.markSaved = other.markSaved := reached.markSaved_eq otherReached same
  refine ⟨sorted, sameCells, reached.graph_eq otherReached same, ?_,
    reached.responses_alike otherReached same⟩
  intro listing
  rw [listing.names_eq, listing.savedText_eq reached.coherent]
  refine ⟨?_, ?_, ?_⟩
  · rw [names, names, sameCells]
  · intro name
    rw [listing.dependentsOf_eq]
    change sheet.markSaved.dependents name = other.markSaved.dependents name
    rw [saved]
  · change sheet.markSaved.savedText = other.markSaved.savedText
    rw [saved]

/-- The same three cells, entered once as they are, and once in the reverse order with an
edit that is refused, a cell that is cleared again and all sets listed from their end. -/
theorem afterListed_history_independent_of_three_cells :
    let backwards : String → String → ListedEdit := fun name text =>
      ⟨.reversed, name, some text⟩
    let sheet := afterListed .free "v1"
      [backwards "C1" "=B1+A1", backwards "B1" "=A1*2", backwards "A1" "=C1",
        backwards "D1" "=A1-C1", backwards "A1" "7", backwards "D1" ""]
    let other := afterEdits .free "v1"
      [("A1", some "7"), ("B1", some "=A1*2"), ("C1", some "=B1+A1")]
    sheet.storedContents? = other.storedContents? ∧
      sheet.cells = other.cells ∧ sheet.graph = other.graph ∧
      Listing.reversed.savedText sheet = other.savedText ∧
      responses [(backwards "A1" "=C1").run, (backwards "A1" "5").run] sheet =
        responses [edit "A1" (some "=C1"), edit "A1" (some "5")] other ∧
      (responses [edit "A1" (some "=C1"), edit "A1" (some "5")] other).map Response.result =
        [.error (.circularDependency "A1"), .ok ["A1", "B1", "C1"]] := by
  intro backwards sheet other
  have held : sheet.cells = other.cells := by decide +kernel
  have same : sheet.storedContents? = other.storedContents? := by
    funext name
    rw [storedContents?, storedContents?, held]
  have results : (responses [edit "A1" (some "=C1"), edit "A1" (some "5")] other).map
      Response.result = [.error (.circularDependency "A1"), .ok ["A1", "B1", "C1"]] := by
    decide +kernel
  obtain ⟨_, sameCells, sameGraph, asked, further⟩ :=
    afterListed_history_independent .free "v1" _ _ same
  exact ⟨same, sameCells, sameGraph, (asked .reversed).2.2,
    further [backwards "A1" "=C1", backwards "A1" "5"], results⟩

end

end Sheet

end Reckon
