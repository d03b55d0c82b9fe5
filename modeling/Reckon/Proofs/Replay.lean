import Reckon.Proofs.Reached
import Reckon.Proofs.Refusals
import Reckon.Sheet.Storage

/-!
Entering the cells of a file. Whether all entries can be carried out and which sheet
they give is settled by the last entry for each name alone: the order of the entries
does not matter, because every sheet on the way holds no more than the final one, in
which no formula depends on itself.
-/

namespace Reckon

open Relation

/-! ## What an entry gives -/

/-- What is stored under a name once it holds the contents: nothing where they are
empty. -/
def Contents.stored? (contents : Contents) : Option Contents :=
  if contents.isEmpty then none else some contents

namespace CellEntry

/-- The entry names a cell, and its text is understood as the contents. -/
structure Gives (rules : NameRules) (entry : CellEntry) (contents : Contents) : Prop where
  accepted : rules.forCells.accepts (rules.canonical entry.name) = true
  understood : ∃ text, entry.contents = some text ∧
    Contents.ofInput rules.forCells text = .ok contents

theorem Gives.unique
    {rules : NameRules} {entry : CellEntry} {contents other : Contents}
    (gives : entry.Gives rules contents) (givesOther : entry.Gives rules other) :
    contents = other := by
  obtain ⟨text, written, understood⟩ := gives.understood
  obtain ⟨otherText, otherWritten, otherUnderstood⟩ := givesOther.understood
  rw [written] at otherWritten
  injection otherWritten with sameText
  rw [← sameText, understood] at otherUnderstood
  injection otherUnderstood

end CellEntry

def lastEntries (rules : NameRules) : List CellEntry → List CellEntry
  | [] => []
  | entry :: later =>
      if ∃ other ∈ later, rules.canonical other.name = rules.canonical entry.name then
        lastEntries rules later
      else
        entry :: lastEntries rules later

section

variable {rules : NameRules} {entries : List CellEntry}

private theorem mem_of_mem_lastEntries
    {entry : CellEntry} (last : entry ∈ lastEntries rules entries) : entry ∈ entries := by
  induction entries with
  | nil => exact last
  | cons first later inductionHypothesis =>
      unfold lastEntries at last
      split at last
      · exact List.mem_cons_of_mem _ (inductionHypothesis last)
      · rcases List.mem_cons.1 last with same | lastLater
        · exact List.mem_cons.2 (Or.inl same)
        · exact List.mem_cons_of_mem _ (inductionHypothesis lastLater)

private theorem exists_mem_lastEntries
    {entry : CellEntry} (listed : entry ∈ entries) :
    ∃ last ∈ lastEntries rules entries,
      rules.canonical last.name = rules.canonical entry.name := by
  induction entries generalizing entry with
  | nil => cases listed
  | cons first later inductionHypothesis =>
      unfold lastEntries
      split
      · next overridden =>
          rcases List.mem_cons.1 listed with same | listedLater
          · subst same
            obtain ⟨other, otherListed, sameName⟩ := overridden
            obtain ⟨last, lastListed, sameLast⟩ := inductionHypothesis otherListed
            exact ⟨last, lastListed, sameLast.trans sameName⟩
          · exact inductionHypothesis listedLater
      · rcases List.mem_cons.1 listed with same | listedLater
        · subst same
          exact ⟨entry, List.mem_cons_self, rfl⟩
        · obtain ⟨last, lastListed, sameName⟩ := inductionHypothesis listedLater
          exact ⟨last, List.mem_cons_of_mem _ lastListed, sameName⟩

private theorem lastEntries_eq_self
    (distinct : (entries.map fun entry => rules.canonical entry.name).Nodup) :
    lastEntries rules entries = entries := by
  induction entries with
  | nil => rfl
  | cons entry later inductionHypothesis =>
      obtain ⟨absent, distinctLater⟩ := List.nodup_cons.1 distinct
      unfold lastEntries
      rw [if_neg, inductionHypothesis distinctLater]
      intro overridden
      obtain ⟨other, listed, sameName⟩ := overridden
      exact absent (List.mem_map.2 ⟨other, listed, sameName⟩)

end

namespace Sheet

/-! ## Entering one cell -/

section

variable {sheet after target : Sheet} {name : String} {input : Option String}
  {entry : CellEntry} {contents : Contents}

private theorem set_map_fst_eq_ok :
    (sheet.set name input).map Prod.fst = .ok after ↔
      ∃ order, (edit name input).run sheet = .ok order after := by
  unfold set
  cases (edit name input).run sheet with
  | ok order completed => simp [Except.map]
  | error refusal unchanged => simp [Except.map]

theorem storedContents?_install_eq_update :
    (sheet.install name contents).storedContents? =
      Function.update sheet.storedContents? name contents.stored? := by
  funext other
  by_cases same : other = name
  · subst same
    rw [Function.update_self, storedContents?_install_self, Contents.stored?]
  · rw [Function.update_of_ne same, storedContents?_install_of_ne same]

theorem storedContents?_completed_eq_update {order : List String} :
    (sheet.completed name contents order).storedContents? =
      Function.update sheet.storedContents? name contents.stored? := by
  rw [← storedContents?_install_eq_update]
  funext other
  exact storedContents?_completed

/-- An edit that is carried out has an accepted name and a text that is understood, and
what this text gives is then stored. -/
theorem Reached.update_of_run_edit
    {rules : NameRules} {version : String} {order : List String}
    (reached : Reached rules version sheet)
    (done : (edit name input).run sheet = .ok order after) :
    ∃ text contents, input = some text ∧
      rules.forCells.accepts (rules.canonical name) = true ∧
      Contents.ofInput rules.forCells text = .ok contents ∧
      after.storedContents? =
        Function.update sheet.storedContents? (rules.canonical name) contents.stored? := by
  rcases run_edit_cases sheet name input with
    ⟨refusal, refused⟩ |
      ⟨text, canonical, contents, planned, written, resolved, understood, _, result⟩
  · rw [refused] at done
    cases done
  · rw [result] at done
    injection done with _ completed
    obtain ⟨sameName, accepted⟩ := reached.resolve_eq_ok_iff.1 resolved
    subst sameName
    refine ⟨text, contents, written, accepted, reached.understand_eq_ok_iff.1 understood, ?_⟩
    rw [← completed]
    exact storedContents?_completed_eq_update

theorem Reached.set
    {rules : NameRules} {version : String} (reached : Reached rules version sheet)
    (done : (sheet.set entry.name entry.contents).map Prod.fst = .ok after) :
    Reached rules version after ∧
      ∃ contents, entry.Gives rules contents ∧
        after.storedContents? =
          Function.update sheet.storedContents? (rules.canonical entry.name)
            contents.stored? := by
  obtain ⟨order, carriedOut⟩ := set_map_fst_eq_ok.1 done
  obtain ⟨text, contents, written, accepted, understood, stored⟩ :=
    reached.update_of_run_edit carriedOut
  exact ⟨reached.run_edit carriedOut, contents, ⟨accepted, text, written, understood⟩, stored⟩

def Within (sheet target : Sheet) : Prop :=
  ∀ name contents, sheet.storedContents? name = some contents →
    target.storedContents? name = some contents

theorem Within.install
    (within : sheet.Within target) (kept : target.storedContents? name = contents.stored?) :
    (sheet.install name contents).Within target := by
  intro other found stored
  rw [storedContents?_install_eq_update] at stored
  by_cases same : other = name
  · subst same
    rw [Function.update_self] at stored
    rw [kept, stored]
  · rw [Function.update_of_ne same] at stored
    exact within other found stored

/-- Contents close no cycle if the sheet that holds them in place of the old ones holds
no more than one without cycles. -/
theorem not_closes_of_within
    (coherent : sheet.Coherent) (targetCoherent : target.Coherent)
    (within : (sheet.install name contents).Within target) :
    ¬ sheet.graph.Closes name contents.names := by
  rw [← DependencyGraph.acyclic_replaceDependees_iff coherent.mirrored coherent.acyclic]
  have edges : ∀ source cell,
      (sheet.graph.replaceDependees name contents.names).Edge source cell →
        target.graph.Edge source cell := by
    intro source cell edge
    obtain ⟨formula, stored, mentioned⟩ := (coherent.edges_install source cell).1 edge
    exact (targetCoherent.edges source cell).2 ⟨formula, within cell _ stored, mentioned⟩
  intro cell cycle
  exact targetCoherent.acyclic cell (TransGen.mono edges cell cell cycle)

end

/-! ## Entering all cells -/

section

variable {rules : NameRules} {version : String} {sheet after target : Sheet}
  {entries : List CellEntry}

private theorem enter_cons_eq_ok {entry : CellEntry} {later : List CellEntry} :
    sheet.enter (entry :: later) = .ok after ↔
      ∃ next, (sheet.set entry.name entry.contents).map Prod.fst = .ok next ∧
        next.enter later = .ok after := by
  rw [enter, List.foldlM_cons, bind_eq_ok]
  rfl

theorem Reached.enter
    (reached : Reached rules version sheet) (done : sheet.enter entries = .ok after) :
    Reached rules version after := by
  induction entries generalizing sheet with
  | nil =>
      injection done with same
      exact same ▸ reached
  | cons entry later inductionHypothesis =>
      obtain ⟨next, first, rest⟩ := enter_cons_eq_ok.1 done
      exact inductionHypothesis (reached.set first).1 rest

private theorem gives_of_enter_eq_ok
    (reached : Reached rules version sheet) (done : sheet.enter entries = .ok after) :
    ∀ entry ∈ entries, ∃ contents, entry.Gives rules contents := by
  induction entries generalizing sheet with
  | nil => simp
  | cons entry later inductionHypothesis =>
      obtain ⟨next, first, rest⟩ := enter_cons_eq_ok.1 done
      obtain ⟨reachedNext, contents, gives, _⟩ := reached.set first
      exact List.forall_mem_cons.2 ⟨⟨contents, gives⟩, inductionHypothesis reachedNext rest⟩

private theorem storedContents?_enter_of_absent
    (reached : Reached rules version sheet) (done : sheet.enter entries = .ok after)
    {name : String} (absent : ∀ entry ∈ entries, rules.canonical entry.name ≠ name) :
    after.storedContents? name = sheet.storedContents? name := by
  induction entries generalizing sheet with
  | nil =>
      injection done with same
      rw [same]
  | cons entry later inductionHypothesis =>
      obtain ⟨different, absentLater⟩ := List.forall_mem_cons.1 absent
      obtain ⟨next, first, rest⟩ := enter_cons_eq_ok.1 done
      obtain ⟨reachedNext, contents, _, stored⟩ := reached.set first
      rw [inductionHypothesis reachedNext rest absentLater, stored,
        Function.update_of_ne different.symm]

/-- The last entry for a name settles its contents. -/
theorem storedContents?_enter_of_mem
    (reached : Reached rules version sheet) (done : sheet.enter entries = .ok after)
    {entry : CellEntry} (last : entry ∈ lastEntries rules entries)
    {contents : Contents} (gives : entry.Gives rules contents) :
    after.storedContents? (rules.canonical entry.name) = contents.stored? := by
  induction entries generalizing sheet with
  | nil => cases last
  | cons first later inductionHypothesis =>
      obtain ⟨next, done, rest⟩ := enter_cons_eq_ok.1 done
      obtain ⟨reachedNext, given, givesFirst, stored⟩ := reached.set done
      unfold lastEntries at last
      split at last
      · exact inductionHypothesis reachedNext rest last
      · next alone =>
          rcases List.mem_cons.1 last with same | lastLater
          · subst same
            have absent : ∀ other ∈ later,
                rules.canonical other.name ≠ rules.canonical entry.name :=
              fun other listed sameName => alone ⟨other, listed, sameName⟩
            rw [storedContents?_enter_of_absent reachedNext rest absent, stored,
              Function.update_self, givesFirst.unique gives]
          · exact inductionHypothesis reachedNext rest lastLater

private theorem exists_set_eq_ok
    (reached : Reached rules version sheet) {entry : CellEntry} {contents : Contents}
    (gives : entry.Gives rules contents)
    (noCycle : ¬ sheet.graph.Closes (rules.canonical entry.name) contents.names) :
    ∃ next, (sheet.set entry.name entry.contents).map Prod.fst = .ok next := by
  obtain ⟨accepted, text, written, understood⟩ := gives
  have resolved : sheet.resolve entry.name = .ok (rules.canonical entry.name) :=
    reached.resolve_eq_ok_iff.2 ⟨rfl, accepted⟩
  have read : sheet.understand text = .ok contents := reached.understand_eq_ok_iff.2 understood
  obtain ⟨order, planned⟩ := exists_plan_eq_ok reached.coherent noCycle
  rw [written]
  exact ⟨_, set_map_fst_eq_ok.2 ⟨order, run_edit_of_plan_eq_ok resolved read planned⟩⟩

/-- Entries of which each gives what a coherent sheet holds can be carried out, in
whatever order they come: no sheet on the way holds more than the coherent one. -/
theorem exists_enter_eq_ok
    (targetCoherent : target.Coherent) (reached : Reached rules version sheet)
    (within : sheet.Within target)
    (gives : ∀ entry ∈ entries, ∃ contents, entry.Gives rules contents ∧
      target.storedContents? (rules.canonical entry.name) = contents.stored?) :
    ∃ after, sheet.enter entries = .ok after := by
  induction entries generalizing sheet with
  | nil => exact ⟨sheet, rfl⟩
  | cons entry later inductionHypothesis =>
      obtain ⟨⟨contents, givesFirst, kept⟩, givesLater⟩ := List.forall_mem_cons.1 gives
      have withinFirst : (sheet.install (rules.canonical entry.name) contents).Within target :=
        within.install kept
      obtain ⟨next, done⟩ := exists_set_eq_ok reached givesFirst
        (not_closes_of_within reached.coherent targetCoherent withinFirst)
      obtain ⟨reachedNext, given, givesAgain, stored⟩ := reached.set done
      have withinNext : next.Within target := by
        rw [givesAgain.unique givesFirst, ← storedContents?_install_eq_update] at stored
        intro name found storedNext
        rw [stored] at storedNext
        exact withinFirst name found storedNext
      obtain ⟨final, rest⟩ := inductionHypothesis reachedNext withinNext givesLater
      exact ⟨final, enter_cons_eq_ok.2 ⟨next, done, rest⟩⟩

theorem storedContents?_empty (name : String) :
    (empty rules version).storedContents? name = none := by
  simp [empty, storedContents?]

/-- Entries of which each gives what a coherent sheet holds, and which miss none of its
cells, lead an empty sheet to the same contents. -/
theorem exists_enter_empty_eq_ok
    (targetCoherent : target.Coherent)
    (gives : ∀ entry ∈ entries, ∃ contents, entry.Gives rules contents ∧
      target.storedContents? (rules.canonical entry.name) = contents.stored?)
    (covers : ∀ name contents, target.storedContents? name = some contents →
      ∃ entry ∈ entries, rules.canonical entry.name = name) :
    ∃ after, (empty rules version).enter entries = .ok after ∧
      after.storedContents? = target.storedContents? := by
  have start : Reached rules version (empty rules version) := .empty
  have within : (empty rules version).Within target := by
    intro name contents stored
    rw [storedContents?_empty] at stored
    cases stored
  obtain ⟨after, done⟩ := exists_enter_eq_ok targetCoherent start within gives
  refine ⟨after, done, ?_⟩
  funext name
  by_cases present : ∃ entry ∈ entries, rules.canonical entry.name = name
  · obtain ⟨entry, listed, sameName⟩ := present
    obtain ⟨last, lastListed, sameLast⟩ := @exists_mem_lastEntries rules _ _ listed
    obtain ⟨contents, givesLast, kept⟩ := gives last (mem_of_mem_lastEntries lastListed)
    rw [← sameName, ← sameLast, kept]
    exact storedContents?_enter_of_mem start done lastListed givesLast
  · have absent : ∀ entry ∈ entries, rules.canonical entry.name ≠ name :=
      fun entry listed sameName => present ⟨entry, listed, sameName⟩
    rw [storedContents?_enter_of_absent start done absent, storedContents?_empty]
    cases stored : target.storedContents? name with
    | none => rfl
    | some contents => exact absurd (covers name contents stored) present

/-- The last entries for each name, in any order, lead an empty sheet to the sheet to
which all entries lead, as soon as these lead to one. -/
theorem markSaved_enter_of_perm_lastEntries
    (done : (empty rules version).enter entries = .ok after)
    {other : List CellEntry} (perm : other.Perm (lastEntries rules entries)) :
    ∃ otherAfter, (empty rules version).enter other = .ok otherAfter ∧
      otherAfter.markSaved = after.markSaved := by
  have start : Reached rules version (empty rules version) := .empty
  have reached : Reached rules version after := start.enter done
  have lastGives : ∀ entry ∈ other, ∃ contents, entry.Gives rules contents ∧
      after.storedContents? (rules.canonical entry.name) = contents.stored? := by
    intro entry listed
    have last : entry ∈ lastEntries rules entries := perm.mem_iff.1 listed
    obtain ⟨contents, gives⟩ :=
      gives_of_enter_eq_ok start done entry (mem_of_mem_lastEntries last)
    exact ⟨contents, gives, storedContents?_enter_of_mem start done last gives⟩
  have covers : ∀ name contents, after.storedContents? name = some contents →
      ∃ entry ∈ other, rules.canonical entry.name = name := by
    intro name contents stored
    by_contra missed
    have absent : ∀ entry ∈ entries, rules.canonical entry.name ≠ name := by
      intro entry listed sameName
      obtain ⟨last, lastListed, sameLast⟩ := @exists_mem_lastEntries rules _ _ listed
      exact missed ⟨last, perm.mem_iff.2 lastListed, sameLast.trans sameName⟩
    rw [storedContents?_enter_of_absent start done absent, storedContents?_empty] at stored
    cases stored
  obtain ⟨otherAfter, otherDone, same⟩ :=
    exists_enter_empty_eq_ok reached.coherent lastGives covers
  exact ⟨otherAfter, otherDone, (start.enter otherDone).markSaved_eq reached same⟩

end

/-! ## The order of the entries in a file -/

theorem ofFile_eq_ok
    {rules : NameRules} {expected : String} {file : SheetFile} {sheet : Sheet} :
    ofFile rules expected file = .ok sheet ↔
      file.version = expected ∧
        ∃ after, (empty rules file.version).enter file.cells = .ok after ∧
          after.markSaved = sheet := by
  unfold ofFile
  split
  · next sameVersion => rw [mapError_eq_ok, map_eq_ok, and_iff_right sameVersion]
  · next otherVersion => simp [otherVersion]

theorem reached_of_ofFile_eq_ok
    {rules : NameRules} {expected : String} {file : SheetFile} {sheet : Sheet}
    (loaded : ofFile rules expected file = .ok sheet) : Reached rules expected sheet := by
  obtain ⟨sameVersion, after, done, saved⟩ := ofFile_eq_ok.1 loaded
  rw [← saved, ← sameVersion]
  exact (Reached.empty.enter done).saved

/-- A file that is loaded gives the same sheet when only the last entry for each name
is kept, in any order. -/
theorem ofFile_of_perm_lastEntries
    {rules : NameRules} {expected version : String} {entries other : List CellEntry}
    {sheet : Sheet} (loaded : ofFile rules expected ⟨version, entries⟩ = .ok sheet)
    (perm : other.Perm (lastEntries rules entries)) :
    ofFile rules expected ⟨version, other⟩ = .ok sheet := by
  obtain ⟨sameVersion, after, done, saved⟩ := ofFile_eq_ok.1 loaded
  obtain ⟨otherAfter, otherDone, same⟩ := markSaved_enter_of_perm_lastEntries done perm
  exact ofFile_eq_ok.2 ⟨sameVersion, otherAfter, otherDone, same.trans saved⟩

/-- The order of the entries does not matter. Where no name has two of them, all orders
give the same sheet or none gives one; and where names have more than one, the last
ones alone give the same sheet, in any order. -/
theorem ofFile_order_irrelevant
    (rules : NameRules) (expected version : String) (entries : List CellEntry) :
    ((entries.map fun entry => rules.canonical entry.name).Nodup →
      (∃ sheet, ∀ other, other.Perm entries →
        ofFile rules expected ⟨version, other⟩ = .ok sheet) ∨
      ∀ other, other.Perm entries →
        ∃ fault, ofFile rules expected ⟨version, other⟩ = .error fault) ∧
    ∀ sheet, ofFile rules expected ⟨version, entries⟩ = .ok sheet →
      ∀ other, other.Perm (lastEntries rules entries) →
        ofFile rules expected ⟨version, other⟩ = .ok sheet := by
  refine ⟨?_, fun sheet loaded other perm => ofFile_of_perm_lastEntries loaded perm⟩
  intro distinct
  by_cases loads : ∃ order, order.Perm entries ∧
      ∃ sheet, ofFile rules expected ⟨version, order⟩ = .ok sheet
  · obtain ⟨order, permOrder, sheet, loaded⟩ := loads
    have alone : lastEntries rules order = order :=
      lastEntries_eq_self ((permOrder.map _).nodup_iff.2 distinct)
    refine Or.inl ⟨sheet, fun other perm => ofFile_of_perm_lastEntries loaded ?_⟩
    rw [alone]
    exact perm.trans permOrder.symm
  · refine Or.inr fun other perm => ?_
    cases result : ofFile rules expected ⟨version, other⟩ with
    | error fault => exact ⟨fault, rfl⟩
    | ok sheet => exact absurd ⟨other, perm, sheet, result⟩ loads

/-- Three cells of which each reads the next one load in every order, as the same sheet with
all values; two cells that read each other load in none; and a cell that is entered twice is
as if it were entered last alone, before the cell that reads it. -/
theorem ofFile_order_irrelevant_of_three_cells :
    let chain : List CellEntry :=
      [⟨"C1", some "=B1+1"⟩, ⟨"B1", some "=A1*2"⟩, ⟨"A1", some "5"⟩]
    let circle : List CellEntry := [⟨"B1", some "=A1*2"⟩, ⟨"A1", some "=B1"⟩]
    let repeated : List CellEntry :=
      [⟨"A1", some "1"⟩, ⟨"B1", some "=A1*2"⟩, ⟨"A1", some "5"⟩]
    (chain.map fun entry => NameRules.free.canonical entry.name).Nodup ∧
      (∃ sheet, (∀ other, other.Perm chain →
          ofFile .free "default" ⟨"default", other⟩ = .ok sheet) ∧
        ["A1", "B1", "C1", "D1"].map sheet.storedValue? =
          [some (.number 5), some (.number 10), some (.number 11), none]) ∧
      (circle.map fun entry => NameRules.free.canonical entry.name).Nodup ∧
      (∀ other, other.Perm circle →
        ∃ fault, ofFile .free "default" ⟨"default", other⟩ = .error fault) ∧
      ∃ sheet, ofFile .free "default" ⟨"default", repeated⟩ = .ok sheet ∧
        ofFile .free "default" ⟨"default", [⟨"A1", some "5"⟩, ⟨"B1", some "=A1*2"⟩]⟩ =
          .ok sheet ∧
        ["A1", "B1", "C1"].map sheet.storedValue? =
          [some (.number 5), some (.number 10), none] := by
  intro chain circle repeated
  have distinct : (chain.map fun entry => NameRules.free.canonical entry.name).Nodup := by
    decide
  have distinctCircle : (circle.map fun entry => NameRules.free.canonical entry.name).Nodup := by
    decide
  refine ⟨distinct, ?_, distinctCircle, ?_, ?_⟩
  · have loads : (ofFile .free "default" ⟨"default", chain⟩).toOption.map
        (fun sheet => ["A1", "B1", "C1", "D1"].map sheet.storedValue?) =
          some [some (.number 5), some (.number 10), some (.number 11), none] := by
      decide +kernel
    rcases (ofFile_order_irrelevant .free "default" "default" chain).1 distinct with
      ⟨sheet, allLoad⟩ | noneLoads
    · rw [allLoad chain (List.Perm.refl chain)] at loads
      exact ⟨sheet, allLoad, Option.some.inj loads⟩
    · obtain ⟨fault, refused⟩ := noneLoads chain (List.Perm.refl chain)
      rw [refused] at loads
      cases loads
  · have fails : (ofFile .free "default" ⟨"default", circle⟩).toOption.isSome = false := by
      decide +kernel
    rcases (ofFile_order_irrelevant .free "default" "default" circle).1 distinctCircle with
      ⟨sheet, allLoad⟩ | noneLoads
    · rw [allLoad circle (List.Perm.refl circle)] at fails
      cases fails
    · exact noneLoads
  · have loads : (ofFile .free "default" ⟨"default", repeated⟩).toOption.map
        (fun sheet => ["A1", "B1", "C1"].map sheet.storedValue?) =
          some [some (.number 5), some (.number 10), none] := by
      decide +kernel
    obtain ⟨sheet, loaded, values⟩ := Option.map_eq_some_iff.1 loads
    rw [toOption_eq_some] at loaded
    refine ⟨sheet, loaded, ?_, values⟩
    apply (ofFile_order_irrelevant .free "default" "default" repeated).2 sheet loaded
    have kept : lastEntries .free repeated =
        [⟨"B1", some "=A1*2"⟩, ⟨"A1", some "5"⟩] := by decide
    rw [kept]
    exact List.Perm.swap _ _ []

end Sheet

end Reckon
