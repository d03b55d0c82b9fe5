import Mathlib.Order.WellFoundedSet
import Reckon.Proofs.Coherence

/-!
Values from scratch. Where no formula mentions itself, directly or through others,
the contents of all cells settle their values by recursion, and the values that a
sheet stores after any edits are these.
-/

namespace Reckon

def Reads (contentsOf : String → Option Contents) (source target : String) : Prop :=
  ∃ contents, contentsOf target = some contents ∧ source ∈ contents.names

set_option linter.unusedVariables false in
/-- The value of a name, computed from the contents of all names by recursion: a
number or a text is its own value, and a formula is evaluated with the numbers that
are the values of the names it mentions. -/
def valueFromScratch
    (contentsOf : String → Option Contents) (grounded : WellFounded (Reads contentsOf))
    (name : String) : Option CellValue :=
  match stored : contentsOf name with
  | none => none
  | some contents =>
      some <| contents.value fun source =>
        if mentioned : source ∈ contents.names then
          (valueFromScratch contentsOf grounded source).bind CellValue.number?
        else
          none
termination_by grounded.wrap name
decreasing_by exact ⟨contents, stored, mentioned⟩

/-- A formula does not notice that other names than those it mentions are hidden from
it. -/
theorem valueFromScratch_eq
    {contentsOf : String → Option Contents} (grounded : WellFounded (Reads contentsOf))
    (name : String) :
    valueFromScratch contentsOf grounded name =
      (contentsOf name).map fun contents =>
        contents.value fun source =>
          (valueFromScratch contentsOf grounded source).bind CellValue.number? := by
  rw [valueFromScratch]
  split
  · next absent => rw [absent, Option.map_none]
  · next contents stored =>
      rw [stored, Option.map_some]
      apply congrArg some
      apply Contents.value_congr
      intro source mentioned
      rw [dif_pos mentioned]

namespace Sheet

theorem storedValue?_eq_of_consistent
    {sheet : Sheet} {name : String} (consistent : sheet.Consistent name) :
    sheet.storedValue? name =
      (sheet.storedContents? name).map fun contents => contents.value sheet.numberIn := by
  rw [storedValue?, storedContents?, Option.map_map]
  cases stored : sheet.cells[name]? with
  | none => rfl
  | some cell => exact congrArg some (consistent cell stored)

namespace Coherent

variable {sheet : Sheet}

private theorem reads_iff_edge (coherent : sheet.Coherent) {source target : String} :
    Reads sheet.storedContents? source target ↔ sheet.graph.Edge source target := by
  rw [coherent.edges, mentions_iff, Reads]

/-- Only stored cells read others. They are finitely many, and none of them reads
itself through others, so that no chain of readings goes on for ever. -/
theorem wellFounded_reads (coherent : sheet.Coherent) :
    WellFounded (Reads sheet.storedContents?) := by
  have strict : IsStrictOrder String (Relation.TransGen sheet.graph.Edge) :=
    { irrefl := coherent.acyclic, trans := fun _ _ _ => Relation.TransGen.trans }
  have finite : {name | name ∈ sheet.cells}.Finite :=
    (List.finite_toSet sheet.cells.keys).subset fun name stored =>
      Std.ExtTreeMap.mem_keys.2 stored
  have descends : {name | name ∈ sheet.cells}.WellFoundedOn
      (Relation.TransGen sheet.graph.Edge) := finite.wellFoundedOn
  have absent : ∀ name, name ∉ sheet.cells → Acc (Reads sheet.storedContents?) name := by
    intro name missing
    apply Acc.intro
    intro source reads
    obtain ⟨contents, stored, _⟩ := reads
    rw [storedContents?, Std.ExtTreeMap.getElem?_eq_none missing] at stored
    cases stored
  apply WellFounded.intro
  intro name
  by_cases stored : name ∈ sheet.cells
  · refine descends.induction stored fun target _ inductionHypothesis => ?_
    apply Acc.intro
    intro source reads
    by_cases storedSource : source ∈ sheet.cells
    · exact inductionHypothesis source storedSource
        (.single (coherent.reads_iff_edge.1 reads))
    · exact absent source storedSource
  · exact absent name stored

/-- By induction along the readings: what a cell reads has its value from scratch, so
the cell itself has it, because its value is that of its contents. -/
theorem storedValue?_eq_valueFromScratch
    (coherent : sheet.Coherent) (grounded : WellFounded (Reads sheet.storedContents?))
    (name : String) :
    sheet.storedValue? name = valueFromScratch sheet.storedContents? grounded name := by
  induction name using grounded.induction with
  | h name inductionHypothesis =>
      rw [storedValue?_eq_of_consistent (coherent.consistent name), valueFromScratch_eq]
      cases stored : sheet.storedContents? name with
      | none => rfl
      | some contents =>
          apply congrArg some
          apply Contents.value_congr
          intro source mentioned
          rw [numberIn_eq, inductionHypothesis source ⟨contents, stored, mentioned⟩]

end Coherent

/-- After any edits of an empty sheet, carried out or refused, the contents of all
cells settle their values from scratch, and these are the values that are stored. -/
theorem afterEdits_values_eq_from_scratch
    (rules : NameRules) (version : String) (edits : List (String × Option String)) :
    let sheet := afterEdits rules version edits
    ∃ grounded : WellFounded (Reads sheet.storedContents?),
      (∀ name, valueFromScratch sheet.storedContents? grounded name =
        (sheet.storedContents? name).map fun contents =>
          contents.value fun source =>
            (valueFromScratch sheet.storedContents? grounded source).bind
              CellValue.number?) ∧
      ∀ name, sheet.storedValue? name =
        valueFromScratch sheet.storedContents? grounded name := by
  intro sheet
  have coherent : sheet.Coherent := coherent_afterEdits rules version edits
  have grounded : WellFounded (Reads sheet.storedContents?) := coherent.wellFounded_reads
  exact ⟨grounded, valueFromScratch_eq grounded,
    coherent.storedValue?_eq_valueFromScratch grounded⟩

end Sheet

end Reckon
