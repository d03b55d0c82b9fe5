import Mathlib.Data.List.Basic
import Mathlib.Logic.Relation
import Reckon.RecalcOrder

/-!
The depth-first search for the order of recalculation. It ends with an order in
which each cell stands before everything that depends on it, or with a cell on a
cycle that the change reaches; so it fails exactly where there is such a cycle.
-/

namespace Reckon

open Relation

variable {dependentsOf : String → List String} {start : String}

def Triggers (dependentsOf : String → List String) (source target : String) : Prop :=
  target ∈ dependentsOf source

theorem reaches_iff_reflTransGen {cell : String} :
    Reaches dependentsOf start cell ↔
      ReflTransGen (Triggers dependentsOf) start cell := by
  constructor
  · intro reached
    induction reached with
    | start => exact .refl
    | step _ depends inductionHypothesis => exact inductionHypothesis.tail depends
  · intro reached
    induction reached with
    | refl => exact .start
    | tail _ depends inductionHypothesis => exact .step inductionHypothesis depends

/-! ## Orders -/

/-- No cell is listed twice, and all dependents of a listed cell are listed after
it. -/
def Ordered (dependentsOf : String → List String) : List String → Prop
  | [] => True
  | cell :: later =>
      cell ∉ later ∧ (∀ target ∈ dependentsOf cell, target ∈ later) ∧
        Ordered dependentsOf later

namespace Ordered

theorem nodup {order : List String} (ordered : Ordered dependentsOf order) :
    order.Nodup := by
  induction order with
  | nil => exact List.nodup_nil
  | cons cell later inductionHypothesis =>
      exact List.nodup_cons.2 ⟨ordered.1, inductionHypothesis ordered.2.2⟩

private theorem mem_of_triggers
    {order : List String} (ordered : Ordered dependentsOf order)
    {source target : String} (listed : source ∈ order)
    (depends : Triggers dependentsOf source target) :
    target ∈ order := by
  induction order with
  | nil => exact absurd listed List.not_mem_nil
  | cons cell later inductionHypothesis =>
      apply List.mem_cons_of_mem
      rcases List.mem_cons.1 listed with rfl | listedLater
      · exact ordered.2.1 target depends
      · exact inductionHypothesis ordered.2.2 listedLater

private theorem mem_of_reflTransGen
    {order : List String} (ordered : Ordered dependentsOf order)
    {source target : String} (listed : source ∈ order)
    (depends : ReflTransGen (Triggers dependentsOf) source target) :
    target ∈ order := by
  induction depends with
  | refl => exact listed
  | tail _ direct inductionHypothesis =>
      exact ordered.mem_of_triggers inductionHypothesis direct

theorem idxOf_lt_idxOf
    {order : List String} (ordered : Ordered dependentsOf order)
    {source target : String} (listed : source ∈ order)
    (depends : Triggers dependentsOf source target) :
    order.idxOf source < order.idxOf target := by
  induction order with
  | nil => exact absurd listed List.not_mem_nil
  | cons cell later inductionHypothesis =>
      have targetLater : target ∈ later := by
        rcases List.mem_cons.1 listed with rfl | listedLater
        · exact ordered.2.1 target depends
        · exact ordered.2.2.mem_of_triggers listedLater depends
      have targetNotFirst : cell ≠ target := by
        intro same
        subst same
        exact ordered.1 targetLater
      rw [List.idxOf_cons_ne _ targetNotFirst]
      rcases List.mem_cons.1 listed with rfl | listedLater
      · rw [List.idxOf_cons_self]
        exact Nat.succ_pos _
      · have sourceNotFirst : cell ≠ source := by
          intro same
          subst same
          exact ordered.1 listedLater
        rw [List.idxOf_cons_ne _ sourceNotFirst]
        exact Nat.succ_lt_succ (inductionHypothesis ordered.2.2 listedLater)

private theorem idxOf_lt_idxOf_of_transGen
    {order : List String} (ordered : Ordered dependentsOf order)
    {source target : String} (listed : source ∈ order)
    (depends : TransGen (Triggers dependentsOf) source target) :
    order.idxOf source < order.idxOf target := by
  induction depends with
  | single direct => exact ordered.idxOf_lt_idxOf listed direct
  | tail earlier direct inductionHypothesis =>
      have between := ordered.mem_of_reflTransGen listed earlier.to_reflTransGen
      exact Nat.lt_trans inductionHypothesis (ordered.idxOf_lt_idxOf between direct)

theorem not_transGen_self
    {order : List String} (ordered : Ordered dependentsOf order)
    {cell : String} (listed : cell ∈ order) :
    ¬ TransGen (Triggers dependentsOf) cell cell := by
  intro cycle
  have before : order.idxOf cell < order.idxOf cell :=
    ordered.idxOf_lt_idxOf_of_transGen listed cycle
  exact Nat.lt_irrefl _ before

end Ordered

namespace RecalcOrder

/-! ## The invariant of the search -/

/-- What holds of a frame when `above` is the cell of the frame on top of it: the
search went from the cell to the one above, and every dependent is still to be
visited, finished, or the one above. -/
structure Frame.Visited
    (finished : List String) (above : Option String)
    (frame : Frame dependentsOf start) : Prop where
  reached : Reaches dependentsOf start frame.cell
  leads : ∀ cell ∈ above, Triggers dependentsOf frame.cell cell
  genuine : ∀ target ∈ frame.remaining, Triggers dependentsOf frame.cell target.val
  covered : ∀ target, Triggers dependentsOf frame.cell target →
    target ∈ frame.remaining.map Subtype.val ∨ target ∈ finished ∨ target ∈ above

/-- The stack is a path of distinct cells from the start, all of whose frames are
visited. The last cell of all to be finished is the start. -/
def Path (finished : List String) :
    Option String → List (Frame dependentsOf start) → Prop
  | some above, [] => above = start
  | none, [] => finished.head? = some start
  | above, frame :: below =>
      frame.Visited finished above ∧ frame.cell ∉ below.map Frame.cell ∧
        Path finished (some frame.cell) below

/-- The marks tell which cells are on the stack and which are finished, and the
finished cells are in order. -/
structure Invariant
    (marks : Marks) (stack : List (Frame dependentsOf start))
    (finished : List String) : Prop where
  inProgress : ∀ cell, marks[cell]? = some .inProgress ↔ cell ∈ stack.map Frame.cell
  done : ∀ cell, marks[cell]? = some .done ↔ cell ∈ finished
  path : Path finished none stack
  ordered : Ordered dependentsOf finished
  reached : ∀ cell ∈ finished, Reaches dependentsOf start cell

/-- What the search finds: an order of what the start reaches, which begins with
the start, or a cell on a cycle that the start reaches. -/
def Sound
    (dependentsOf : String → List String) (start : String) :
    Except CycleDetected (List String) → Prop
  | .ok order =>
      Ordered dependentsOf order ∧ order.head? = some start ∧
        ∀ cell ∈ order, Reaches dependentsOf start cell
  | .error detected =>
      Reaches dependentsOf start detected.cell ∧
        TransGen (Triggers dependentsOf) detected.cell detected.cell

/-! ## The steps of the search -/

theorem Frame.map_remaining_enter
    (cell : { cell : String // Reaches dependentsOf start cell }) :
    (Frame.enter cell).remaining.map Subtype.val =
      orderedDependents dependentsOf cell.val := by
  simp [Frame.enter]

private theorem Frame.mem_remaining_enter
    {cell : { cell : String // Reaches dependentsOf start cell }} {target : String} :
    target ∈ (Frame.enter cell).remaining.map Subtype.val ↔
      Triggers dependentsOf cell.val target := by
  rw [map_remaining_enter, mem_orderedDependents, Triggers]

theorem Frame.Visited.enter
    (finished : List String)
    (cell : { cell : String // Reaches dependentsOf start cell }) :
    (Frame.enter cell).Visited finished none where
  reached := cell.property
  leads := by simp
  genuine target listed :=
    mem_remaining_enter.1 (List.mem_map_of_mem listed)
  covered target depends := Or.inl (mem_remaining_enter.2 depends)

theorem Frame.Visited.mono
    {finished : List String} {above : Option String}
    {frame : Frame dependentsOf start}
    (visited : frame.Visited finished above) (cell : String) :
    frame.Visited (cell :: finished) above where
  reached := visited.reached
  leads := visited.leads
  genuine := visited.genuine
  covered target depends := by
    rcases visited.covered target depends with remaining | known | above
    · exact Or.inl remaining
    · exact Or.inr (Or.inl (List.mem_cons_of_mem _ known))
    · exact Or.inr (Or.inr above)

theorem Path.mono
    {finished : List String} {above : String}
    {stack : List (Frame dependentsOf start)}
    (path : Path finished (some above) stack) (cell : String) :
    Path (cell :: finished) (some above) stack := by
  induction stack generalizing above with
  | nil => exact path
  | cons frame below inductionHypothesis =>
      obtain ⟨visited, distinct, rest⟩ := path
      exact ⟨visited.mono cell, distinct, inductionHypothesis rest⟩

theorem Path.finish
    {finished : List String} {cell : String}
    {stack : List (Frame dependentsOf start)}
    (path : Path finished (some cell) stack) :
    Path (cell :: finished) none stack := by
  cases stack with
  | nil => exact congrArg some path
  | cons frame below =>
      obtain ⟨visited, distinct, rest⟩ := path
      refine ⟨⟨visited.reached, by simp, visited.genuine, ?_⟩, distinct, rest.mono cell⟩
      intro target depends
      rcases visited.covered target depends with remaining | known | above
      · exact Or.inl remaining
      · exact Or.inr (Or.inl (List.mem_cons_of_mem _ known))
      · obtain rfl : cell = target := by simpa using above
        exact Or.inr (Or.inl List.mem_cons_self)

private theorem Path.transGen
    {finished : List String} {above : String}
    {stack : List (Frame dependentsOf start)}
    (path : Path finished (some above) stack) {cell : String}
    (onPath : cell ∈ stack.map Frame.cell) :
    TransGen (Triggers dependentsOf) cell above := by
  induction stack generalizing above with
  | nil => exact absurd onPath List.not_mem_nil
  | cons frame below inductionHypothesis =>
      obtain ⟨visited, _, rest⟩ := path
      have last : Triggers dependentsOf frame.cell above := visited.leads above rfl
      rcases List.mem_cons.1 onPath with rfl | onRest
      · exact .single last
      · exact (inductionHypothesis rest onRest).tail last

namespace Invariant

variable {marks : Marks} {finished : List String} {cell : String}
  {below : List (Frame dependentsOf start)}
  {target : { target : String // Reaches dependentsOf start target }}
  {remaining : List { target : String // Reaches dependentsOf start target }}

/-- A cell without remaining dependents is finished. -/
theorem leave
    (invariant : Invariant marks (⟨cell, []⟩ :: below) finished) :
    Invariant (marks.insert cell .done) below (cell :: finished) := by
  obtain ⟨visited, distinct, rest⟩ := invariant.path
  have notFinished : cell ∉ finished := by
    intro known
    have inProgress := (invariant.inProgress cell).2 List.mem_cons_self
    rw [(invariant.done cell).2 known] at inProgress
    cases inProgress
  refine ⟨?_, ?_, rest.finish, ⟨notFinished, ?_, invariant.ordered⟩, ?_⟩
  · intro other
    rw [Std.ExtTreeMap.getElem?_insert]
    by_cases same : cell = other
    · subst same
      simpa using distinct
    · simp [same, invariant.inProgress, Ne.symm same]
  · intro other
    rw [Std.ExtTreeMap.getElem?_insert]
    by_cases same : cell = other
    · subst same
      simp
    · simp [same, invariant.done, Ne.symm same]
  · intro target depends
    rcases visited.covered target depends with remaining | known | above
    · exact absurd remaining List.not_mem_nil
    · exact known
    · cases above
  · intro other listed
    rcases List.mem_cons.1 listed with rfl | listed
    · exact visited.reached
    · exact invariant.reached other listed

/-- A remaining dependent that is on the stack closes a cycle. -/
theorem cycle
    (invariant : Invariant marks (⟨cell, target :: remaining⟩ :: below) finished)
    (onStack : marks[target.val]? = some .inProgress) :
    Sound dependentsOf start (.error ⟨target.val⟩) := by
  obtain ⟨visited, _, rest⟩ := invariant.path
  refine ⟨target.property, ?_⟩
  have closing : Triggers dependentsOf cell target.val :=
    visited.genuine target List.mem_cons_self
  rcases List.mem_cons.1 ((invariant.inProgress target.val).1 onStack) with same | onPath
  · rw [show target.val = cell from same] at closing ⊢
    exact .single closing
  · exact (rest.transGen onPath).tail closing

/-- A remaining dependent that is finished needs no visit. -/
theorem skip
    (invariant : Invariant marks (⟨cell, target :: remaining⟩ :: below) finished)
    (known : marks[target.val]? = some .done) :
    Invariant marks (⟨cell, remaining⟩ :: below) finished := by
  obtain ⟨visited, distinct, rest⟩ := invariant.path
  refine ⟨invariant.inProgress, invariant.done, ⟨⟨visited.reached, visited.leads, ?_, ?_⟩,
    distinct, rest⟩, invariant.ordered, invariant.reached⟩
  · exact fun other listed => visited.genuine other (List.mem_cons_of_mem _ listed)
  · intro other depends
    rcases visited.covered other depends with listed | rest
    · rcases List.mem_cons.1 listed with rfl | listed
      · exact Or.inr (Or.inl ((invariant.done _).1 known))
      · exact Or.inl listed
    · exact Or.inr rest

/-- A remaining dependent that is not visited yet is entered. -/
theorem enter
    (invariant : Invariant marks (⟨cell, target :: remaining⟩ :: below) finished)
    (unvisited : marks[target.val]? = none) :
    Invariant (marks.insert target.val .inProgress)
      (.enter target :: ⟨cell, remaining⟩ :: below) finished := by
  obtain ⟨visited, distinct, rest⟩ := invariant.path
  have notOnStack : target.val ∉ cell :: below.map Frame.cell := by
    intro onStack
    have inProgress := (invariant.inProgress target.val).2 onStack
    rw [unvisited] at inProgress
    cases inProgress
  have notFinished : target.val ∉ finished := by
    intro known
    have done := (invariant.done target.val).2 known
    rw [unvisited] at done
    cases done
  have left : Frame.Visited finished (some target.val)
      (⟨cell, remaining⟩ : Frame dependentsOf start) := by
    refine ⟨visited.reached, ?_, ?_, ?_⟩
    · intro above same
      obtain rfl : target.val = above := by simpa using same
      exact visited.genuine target List.mem_cons_self
    · exact fun other listed => visited.genuine other (List.mem_cons_of_mem _ listed)
    · intro other depends
      rcases visited.covered other depends with listed | known | above
      · rcases List.mem_cons.1 listed with rfl | listed
        · exact Or.inr (Or.inr rfl)
        · exact Or.inl listed
      · exact Or.inr (Or.inl known)
      · cases above
  refine ⟨?_, ?_, ⟨.enter finished target, notOnStack, left, distinct, rest⟩, invariant.ordered,
    invariant.reached⟩
  · intro other
    rw [Std.ExtTreeMap.getElem?_insert]
    by_cases same : target.val = other
    · subst same
      simp [Frame.enter]
    · simp [same, invariant.inProgress, Ne.symm same, Frame.enter]
  · intro other
    rw [Std.ExtTreeMap.getElem?_insert]
    by_cases same : target.val = other
    · subst same
      simpa using notFinished
    · simp [same, invariant.done]

end Invariant

theorem sound_search
    {cells : List String}
    {bounded : ∀ cell, Reaches dependentsOf start cell → cell ∈ cells}
    {marks : Marks} {stack : List (Frame dependentsOf start)}
    {finished : List String} (invariant : Invariant marks stack finished) :
    Sound dependentsOf start (search cells bounded marks stack finished) := by
  fun_induction search cells bounded marks stack finished with
  | case1 marks finished =>
      exact ⟨invariant.ordered, invariant.path, invariant.reached⟩
  | case2 marks finished cell below inductionHypothesis =>
      exact inductionHypothesis invariant.leave
  | case3 marks finished cell target remaining below onStack =>
      exact invariant.cycle onStack
  | case4 marks finished cell target remaining below known inductionHypothesis =>
      exact inductionHypothesis (invariant.skip known)
  | case5 marks finished cell target remaining below unvisited inductionHypothesis =>
      exact inductionHypothesis (invariant.enter unvisited)

theorem invariant_start :
    Invariant (Std.ExtTreeMap.insert ∅ start .inProgress)
      [.enter (⟨start, .start⟩ : { cell : String // Reaches dependentsOf start cell })]
      [] where
  inProgress cell := by
    simp [Std.ExtTreeMap.getElem?_insert, Frame.enter, @eq_comm _ start cell]
  done cell := by
    simp [Std.ExtTreeMap.getElem?_insert]
  path := ⟨.enter [] _, List.not_mem_nil, rfl⟩
  ordered := trivial
  reached := by simp

end RecalcOrder

/-! ## What the search finds -/

section

variable {cells : List String}
  {bounded : ∀ cell, Reaches dependentsOf start cell → cell ∈ cells}

theorem sound_recalcOrder :
    RecalcOrder.Sound dependentsOf start
      (recalcOrder dependentsOf start cells bounded) :=
  RecalcOrder.sound_search RecalcOrder.invariant_start

/-- An order begins with the start, has every cell that the start reaches exactly
once, and has each cell before those that depend on it. -/
theorem recalcOrder_eq_ok
    {order : List String}
    (found : recalcOrder dependentsOf start cells bounded = .ok order) :
    order.head? = some start ∧ Ordered dependentsOf order ∧
      ∀ cell, cell ∈ order ↔ ReflTransGen (Triggers dependentsOf) start cell := by
  obtain ⟨ordered, first, reached⟩ :
      RecalcOrder.Sound dependentsOf start (.ok order) := found ▸ sound_recalcOrder
  refine ⟨first, ordered, ?_⟩
  intro cell
  constructor
  · intro listed
    exact reaches_iff_reflTransGen.1 (reached cell listed)
  · intro depends
    have startListed : start ∈ order := List.mem_of_head? first
    exact ordered.mem_of_reflTransGen startListed depends

/-- There is an order exactly if the start reaches no cell that depends on
itself. -/
theorem exists_recalcOrder_eq_ok_iff :
    (∃ order, recalcOrder dependentsOf start cells bounded = .ok order) ↔
      ∀ cell, ReflTransGen (Triggers dependentsOf) start cell →
        ¬ TransGen (Triggers dependentsOf) cell cell := by
  constructor
  · intro planned cell reached
    obtain ⟨order, found⟩ := planned
    obtain ⟨_, ordered, listed⟩ := recalcOrder_eq_ok found
    exact ordered.not_transGen_self ((listed cell).2 reached)
  · intro acyclic
    cases found : recalcOrder dependentsOf start cells bounded with
    | ok order => exact ⟨order, rfl⟩
    | error detected =>
        obtain ⟨reached, cycle⟩ :
            RecalcOrder.Sound dependentsOf start (.error detected) :=
          found ▸ sound_recalcOrder
        exact absurd cycle (acyclic _ (reaches_iff_reflTransGen.1 reached))

end

end Reckon
