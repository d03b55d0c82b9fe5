import Reckon.Proofs.Traversal

/-!
The depth-first search as a recursion. A name that is neither in progress nor finished is
visited by visiting the names listed for it, and then it is finished; the search fails with
the first name that it meets while this name is in progress. The search with a stack of
frames finds what the recursion finds: what is left to do for a frame is a call that has not
returned yet.
-/

namespace Reckon

namespace RecalcOrder

/-- The names in a list are visited one after the other, while those on the path are in
progress. It ends with the finished names, the last one first, or with a name that is met
again before it is finished. -/
inductive Visits (listed : String → List String) :
    (path names finished : List String) → Except CycleDetected (List String) → Prop where
  | done {path finished : List String} : Visits listed path [] finished (.ok finished)
  | cycle {path finished rest : List String} {name : String}
      (inProgress : name ∈ path) :
      Visits listed path (name :: rest) finished (.error ⟨name⟩)
  | known {path finished rest : List String} {name : String}
      {result : Except CycleDetected (List String)}
      (notInProgress : name ∉ path) (known : name ∈ finished)
      (later : Visits listed path rest finished result) :
      Visits listed path (name :: rest) finished result
  | failed {path finished rest : List String} {name : String} {detected : CycleDetected}
      (notInProgress : name ∉ path) (unknown : name ∉ finished)
      (inner : Visits listed (name :: path) (listed name) finished (.error detected)) :
      Visits listed path (name :: rest) finished (.error detected)
  | visited {path finished rest found : List String} {name : String}
      {result : Except CycleDetected (List String)}
      (notInProgress : name ∉ path) (unknown : name ∉ finished)
      (inner : Visits listed (name :: path) (listed name) finished (.ok found))
      (later : Visits listed path rest (name :: found) result) :
      Visits listed path (name :: rest) finished result

namespace Visits

variable {listed : String → List String} {path names rest finished : List String}
  {name : String} {result other : Except CycleDetected (List String)}

/-- The recursion finds one thing only. -/
theorem unique
    (visits : Visits listed path names finished result)
    (visitsOther : Visits listed path names finished other) : result = other := by
  induction visits generalizing other with
  | done =>
      cases visitsOther with
      | done => rfl
  | cycle inProgress =>
      cases visitsOther with
      | cycle => rfl
      | known notInProgress => exact absurd inProgress notInProgress
      | failed notInProgress => exact absurd inProgress notInProgress
      | visited notInProgress => exact absurd inProgress notInProgress
  | known notInProgress known _ inductionHypothesis =>
      cases visitsOther with
      | cycle inProgress => exact absurd inProgress notInProgress
      | known _ _ later => exact inductionHypothesis later
      | failed _ unknown => exact absurd known unknown
      | visited _ unknown => exact absurd known unknown
  | failed notInProgress unknown _ inductionHypothesis =>
      cases visitsOther with
      | cycle inProgress => exact absurd inProgress notInProgress
      | known _ known => exact absurd known unknown
      | failed _ _ inner => exact inductionHypothesis inner
      | visited _ _ inner => cases inductionHypothesis inner
  | visited notInProgress unknown _ _ innerHypothesis laterHypothesis =>
      cases visitsOther with
      | cycle inProgress => exact absurd inProgress notInProgress
      | known _ known => exact absurd known unknown
      | failed _ _ inner => cases innerHypothesis inner
      | visited _ _ inner later =>
          injection innerHypothesis inner with sameFound
          subst sameFound
          exact laterHypothesis later

end Visits

/-! ## Frames as calls that have not returned -/

/-- What is left to do for the cells on a stack, each with the names still to be visited for
it: once these are visited, the cell is finished, and the one below goes on. -/
def Resumes (listed : String → List String) :
    List (String × List String) → List String → Except CycleDetected (List String) → Prop
  | [], finished, result => result = .ok finished
  | (cell, names) :: below, finished, result =>
      ∃ outcome, Visits listed (cell :: below.map Prod.fst) names finished outcome ∧
        match outcome with
        | .error detected => result = .error detected
        | .ok found => Resumes listed below (cell :: found) result

def Frame.bare {dependentsOf : String → List String} {start : String}
    (frame : Frame dependentsOf start) : String × List String :=
  (frame.cell, frame.remaining.map Subtype.val)

section

variable {dependentsOf : String → List String} {start : String}

theorem Frame.bare_enter (cell : { cell : String // Reaches dependentsOf start cell }) :
    (Frame.enter cell).bare = (cell.val, orderedDependents dependentsOf cell.val) :=
  congrArg (Prod.mk cell.val) (map_remaining_enter cell)

private theorem map_fst_map_bare (stack : List (Frame dependentsOf start)) :
    (stack.map Frame.bare).map Prod.fst = stack.map Frame.cell := by
  rw [List.map_map]
  rfl

/-- A cell that is not marked as in progress is not on the path that a stack is. -/
theorem Invariant.not_mem_path
    {marks : Marks} {cell target : String} {below : List (Frame dependentsOf start)}
    {remaining : List { target : String // Reaches dependentsOf start target }}
    {finished : List String} (invariant : Invariant marks (⟨cell, remaining⟩ :: below) finished)
    (different : marks[target]? ≠ some .inProgress) :
    target ∉ cell :: (below.map Frame.bare).map Prod.fst := by
  rw [map_fst_map_bare]
  exact mt (invariant.inProgress target).2 different

/-- The search with frames goes on as the recursion does. -/
theorem resumes_search
    {cells : List String} {bounded : ∀ cell, Reaches dependentsOf start cell → cell ∈ cells}
    {marks : Marks} {stack : List (Frame dependentsOf start)} {finished : List String}
    (invariant : Invariant marks stack finished) :
    Resumes (orderedDependents dependentsOf) (stack.map Frame.bare) finished
      (search cells bounded marks stack finished) := by
  fun_induction search cells bounded marks stack finished with
  | case1 marks finished => rfl
  | case2 marks finished cell below inductionHypothesis =>
      exact ⟨.ok finished, .done, inductionHypothesis invariant.leave⟩
  | case3 marks finished cell target remaining below onStack =>
      have inProgress : target.val ∈ cell :: (below.map Frame.bare).map Prod.fst := by
        rw [map_fst_map_bare]
        exact (invariant.inProgress target.val).1 onStack
      exact ⟨.error ⟨target.val⟩, .cycle inProgress, rfl⟩
  | case4 marks finished cell target remaining below done inductionHypothesis =>
      have known : target.val ∈ finished := (invariant.done target.val).1 done
      have notInProgress := invariant.not_mem_path (by rw [done]; decide)
      obtain ⟨outcome, visits, goesOn⟩ := inductionHypothesis (invariant.skip done)
      exact ⟨outcome, .known notInProgress known visits, goesOn⟩
  | case5 marks finished cell target remaining below unvisited inductionHypothesis =>
      have unknown : target.val ∉ finished := by
        intro known
        have done := (invariant.done target.val).2 known
        rw [unvisited] at done
        cases done
      have notInProgress := invariant.not_mem_path (by rw [unvisited]; decide)
      have entered := inductionHypothesis (invariant.enter unvisited)
      rw [List.map_cons, Frame.bare_enter] at entered
      obtain ⟨inner, visitsInner, goesOn⟩ := entered
      cases inner with
      | error detected => exact ⟨.error detected, .failed notInProgress unknown visitsInner, goesOn⟩
      | ok found =>
          obtain ⟨outcome, visitsLater, goesOnBelow⟩ := goesOn
          exact ⟨outcome, .visited notInProgress unknown visitsInner visitsLater, goesOnBelow⟩

/-- The order of recalculation is what the recursion finds from the start. -/
theorem visits_recalcOrder
    (cells : List String) (bounded : ∀ cell, Reaches dependentsOf start cell → cell ∈ cells) :
    Visits (orderedDependents dependentsOf) [] [start] []
      (recalcOrder dependentsOf start cells bounded) := by
  have resumed : Resumes (orderedDependents dependentsOf) _ []
      (recalcOrder dependentsOf start cells bounded) := resumes_search invariant_start
  rw [List.map_singleton, Frame.bare_enter] at resumed
  obtain ⟨outcome, visits, ends⟩ := resumed
  cases outcome with
  | error detected =>
      rw [show recalcOrder dependentsOf start cells bounded = .error detected from ends]
      exact .failed List.not_mem_nil List.not_mem_nil visits
  | ok found =>
      rw [show recalcOrder dependentsOf start cells bounded = .ok (start :: found) from ends]
      exact .visited List.not_mem_nil List.not_mem_nil visits .done

end

end RecalcOrder

end Reckon
