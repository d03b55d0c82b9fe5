import Reckon.Proofs.FormulaText
import Reckon.Proofs.ParseTree

/-!
The stacks of an evaluation never run short. An evaluation takes a zero where a value is
missing, and goes on where a parenthesis is. A strict evaluation stops there, and also where
more than one value is left at the end; for formulas the two are the same, since between any
two tokens there is one value for each operator that is pending, and one more where an operand
has just ended. Within one pair of parentheses no more is pending than an operator that adds
and then one that multiplies.
-/

namespace Reckon

/-- Why a strict evaluation comes to no value: a value or a parenthesis is missing, something
is left over at the end, or the evaluation itself fails. -/
inductive Halt where
  | missingValue
  | missingParen
  | leftover
  | failed (cause : EvalError)
deriving DecidableEq

namespace Stacks

/-! ## Strict evaluation -/

/-- An operator of a kind is taken off, if one is on top, together with the two values that it
needs. -/
def resolve (kind : Operator → Bool) (state : Stacks) : Except Halt Stacks :=
  match state.pending with
  | .operator op :: pending =>
      if kind op then
        match state.values with
        | right :: left :: values =>
            ((op.apply left right).map fun value => ⟨value :: values, pending⟩).mapError .failed
        | _ => .error .missingValue
      else
        .ok state
  | _ => .ok state

def closeParen (state : Stacks) : Except Halt Stacks :=
  match state.pending with
  | .paren :: pending => .ok ⟨state.values, pending⟩
  | _ => .error .missingParen

/-- One more token is read, and all that it needs has to be there. -/
def strictStep (lookup : String → Option Float) (state : Stacks) : Token → Except Halt Stacks
  | .leftParen => .ok ⟨state.values, .paren :: state.pending⟩
  | .rightParen => do
      let resolved ← state.resolve Operator.isAdditive
      let closed ← resolved.closeParen
      closed.resolve (!·.isAdditive)
  | .operator op =>
      if op.isAdditive then do
        let resolved ← state.resolve Operator.isAdditive
        .ok ⟨resolved.values, .operator op :: resolved.pending⟩
      else
        .ok ⟨state.values, .operator op :: state.pending⟩
  | .number value => resolve (!·.isAdditive) ⟨value :: state.values, state.pending⟩
  | .name name =>
      match lookup name with
      | some value => resolve (!·.isAdditive) ⟨value :: state.values, state.pending⟩
      | none => .error (.failed (.undefinedVariable name))

def strictResult (state : Stacks) : Except Halt Float := do
  let resolved ← state.resolve Operator.isAdditive
  match resolved.values, resolved.pending with
  | [value], [] => .ok value
  | _, _ => .error .leftover

/-! ## What is pending -/

/-- What may be pending within one pair of parentheses, the latest first: an operator that
multiplies, if any, on one that adds, if any. -/
def IsLayer (layer : List Pending) : Prop :=
  ∃ product sum : Option Operator, (∀ op ∈ product, op.isAdditive = false) ∧
    (∀ op ∈ sum, op.isAdditive = true) ∧
      layer = (product.toList ++ sum.toList).map Pending.operator

/-- Layers, as they are built up: on top of a layer stands a parenthesis, an operator that adds
where there is none, or one that multiplies where there is at most one that adds. -/
inductive Layered : List Pending → Prop where
  | nothing : Layered []
  | paren {pending : List Pending} (below : Layered pending) : Layered (.paren :: pending)
  | additive {op : Operator} {pending : List Pending} (additive : op.isAdditive = true)
      (bare : awaits .sum pending) (below : Layered pending) : Layered (.operator op :: pending)
  | multiplicative {op : Operator} {pending : List Pending}
      (multiplicative : op.isAdditive = false) (loose : awaits .product pending)
      (below : Layered pending) : Layered (.operator op :: pending)

private theorem Layered.of_suffix {pending rest : List Pending} (layered : Layered pending)
    (suffix : rest <:+ pending) : Layered rest := by
  induction layered with
  | nothing =>
      rw [List.suffix_nil.1 suffix]
      exact .nothing
  | paren below inductionHypothesis =>
      rcases List.suffix_cons_iff.1 suffix with rfl | within
      · exact .paren below
      · exact inductionHypothesis within
  | additive additive bare below inductionHypothesis =>
      rcases List.suffix_cons_iff.1 suffix with rfl | within
      · exact .additive additive bare below
      · exact inductionHypothesis within
  | multiplicative multiplicative loose below inductionHypothesis =>
      rcases List.suffix_cons_iff.1 suffix with rfl | within
      · exact .multiplicative multiplicative loose below
      · exact inductionHypothesis within

private theorem splitOn_paren (pending : List Pending) :
    (Pending.paren :: pending).splitOn .paren = [] :: pending.splitOn .paren := by
  simp [List.splitOn, List.splitOnP_cons_eq_if_modifyHead]

private theorem splitOn_operator (op : Operator) (pending : List Pending) :
    (Pending.operator op :: pending).splitOn .paren =
      (pending.splitOn .paren).modifyHead (.operator op :: ·) := by
  simp [List.splitOn, List.splitOnP_cons_eq_if_modifyHead]

private theorem awaits_product_of_sum {pending : List Pending} (nothing : awaits .sum pending) :
    awaits .product pending :=
  fun op below top => absurd top (nothing op below)

/-- The layers of what is pending, where the top one is known from what it awaits. -/
theorem Layered.exists_splitOn {pending : List Pending} (layered : Layered pending) :
    ∃ (product sum : Option Operator) (others : List (List Pending)),
      pending.splitOn .paren = (product.toList ++ sum.toList).map .operator :: others ∧
        (∀ op ∈ product, op.isAdditive = false) ∧ (∀ op ∈ sum, op.isAdditive = true) ∧
          (∀ layer ∈ others, IsLayer layer) ∧ (awaits .product pending → product = none) ∧
            (awaits .sum pending → sum = none) := by
  induction layered with
  | nothing => exact ⟨none, none, [], by simp, by simp, by simp, by simp, by simp, by simp⟩
  | @paren pending below inductionHypothesis =>
      obtain ⟨product, sum, others, split, multiplicative, additive, layers, _, _⟩ :=
        inductionHypothesis
      refine ⟨none, none, _, splitOn_paren pending, by simp, by simp, ?_, by simp, by simp⟩
      rw [split]
      exact List.forall_mem_cons.2 ⟨⟨product, sum, multiplicative, additive, rfl⟩, layers⟩
  | @additive op pending additive bare below inductionHypothesis =>
      obtain ⟨product, sum, others, split, _, _, layers, noProduct, noSum⟩ := inductionHypothesis
      obtain rfl := noProduct (awaits_product_of_sum bare)
      obtain rfl := noSum bare
      refine ⟨none, some op, others, ?_, by simp, by simpa using additive, layers, by simp, ?_⟩
      · rw [splitOn_operator, split]
        rfl
      · exact fun nothing => absurd rfl (nothing op pending)
  | @multiplicative op pending multiplicative loose below inductionHypothesis =>
      obtain ⟨product, sum, others, split, _, additive, layers, noProduct, _⟩ :=
        inductionHypothesis
      obtain rfl := noProduct loose
      refine ⟨some op, sum, others, ?_, by simpa using multiplicative, additive, layers, ?_, ?_⟩
      · rw [splitOn_operator, split]
        rfl
      · intro loose
        exact Bool.noConfusion (multiplicative.symm.trans (loose op pending rfl))
      · exact fun nothing => absurd rfl (nothing op pending)

private theorem Layered.isLayer {pending : List Pending} (layered : Layered pending) :
    ∀ layer ∈ pending.splitOn .paren, IsLayer layer := by
  obtain ⟨product, sum, others, split, multiplicative, additive, layers, _, _⟩ :=
    layered.exists_splitOn
  rw [split]
  exact List.forall_mem_cons.2 ⟨⟨product, sum, multiplicative, additive, rfl⟩, layers⟩

/-! ## The values that operators need -/

def operatorCount (pending : List Pending) : Nat :=
  pending.countP (· ≠ .paren)

def parenCount (pending : List Pending) : Nat :=
  pending.count .paren

@[simp]
theorem operatorCount_paren (pending : List Pending) :
    operatorCount (.paren :: pending) = operatorCount pending := by
  simp [operatorCount]

@[simp]
theorem operatorCount_operator (op : Operator) (pending : List Pending) :
    operatorCount (.operator op :: pending) = operatorCount pending + 1 := by
  simp [operatorCount]

@[simp]
theorem parenCount_paren (pending : List Pending) :
    parenCount (.paren :: pending) = parenCount pending + 1 := by
  simp [parenCount]

@[simp]
theorem parenCount_operator (op : Operator) (pending : List Pending) :
    parenCount (.operator op :: pending) = parenCount pending := by
  simp [parenCount]

/-- There is one value more than operators are pending: enough for all of them. -/
structure Supplied (state : Stacks) : Prop where
  layered : Layered state.pending
  counted : state.values.length = operatorCount state.pending + 1

private theorem Supplied.exists_pair {values : List Float} {op : Operator} {below : List Pending}
    (supplied : Supplied ⟨values, .operator op :: below⟩) :
    ∃ right left rest, values = right :: left :: rest ∧
      ∀ value, Supplied ⟨value :: rest, below⟩ := by
  have counted : values.length = operatorCount below + 2 := by
    simpa using supplied.counted
  have layered : Layered below := supplied.layered.of_suffix (List.suffix_cons _ _)
  match values with
  | right :: left :: rest =>
      refine ⟨right, left, rest, rfl, fun value => ⟨layered, ?_⟩⟩
      simpa using counted

private theorem awaits_or_top (pending : List Pending) :
    awaits .sum pending ∨ ∃ op below, pending = .operator op :: below := by
  rcases pending with _ | ⟨_ | op, below⟩
  · exact Or.inl (by simp [awaits])
  · exact Or.inl (by simp [awaits])
  · exact Or.inr ⟨op, below, rfl⟩

private theorem resolve_eq_self {kind : Operator → Bool} {values : List Float}
    {pending : List Pending}
    (passes : ∀ op below, pending = .operator op :: below → kind op = false) :
    resolve kind ⟨values, pending⟩ = .ok ⟨values, pending⟩ := by
  unfold resolve
  split
  · next op below top => rw [passes op below top, if_neg Bool.false_ne_true]
  · rfl

private theorem resolve_operator {kind : Operator → Bool} {op : Operator} (ofKind : kind op = true)
    (left right : Float) (values : List Float) (pending : List Pending) :
    resolve kind ⟨right :: left :: values, .operator op :: pending⟩ =
      ((op.apply left right).map fun value => ⟨value :: values, pending⟩).mapError .failed := by
  simp only [resolve, ofKind, if_true]

private theorem exists_resolveAdditive_operator {op : Operator} (additive : op.isAdditive = true)
    (left right : Float) (values : List Float) (pending : List Pending) :
    ∃ value, resolveAdditive ⟨right :: left :: values, .operator op :: pending⟩ =
      ⟨value :: values, pending⟩ := by
  cases op with
  | add => exact ⟨_, rfl⟩
  | sub => exact ⟨_, rfl⟩
  | mul => cases additive
  | div => cases additive

/-- Where no operator that multiplies is on top, one that adds is resolved, if there is one. -/
theorem Supplied.resolveAdditive {state : Stacks} (supplied : Supplied state)
    (loose : awaits .product state.pending) :
    state.resolve Operator.isAdditive = .ok state.resolveAdditive ∧
      Supplied state.resolveAdditive ∧ awaits .sum state.resolveAdditive.pending ∧
        parenCount state.resolveAdditive.pending = parenCount state.pending := by
  obtain ⟨values, pending⟩ := state
  rcases awaits_or_top pending with nothing | ⟨op, below, rfl⟩
  · rw [resolveAdditive_eq_self nothing]
    exact ⟨resolve_eq_self fun op below top => absurd top (nothing op below), supplied, nothing,
      rfl⟩
  · have additive : op.isAdditive = true := loose op below rfl
    obtain ⟨right, left, rest, rfl, remains⟩ := supplied.exists_pair
    obtain ⟨value, resolved⟩ := exists_resolveAdditive_operator additive left right rest below
    have bare : awaits .sum below := by
      cases supplied.layered with
      | additive _ bare _ => exact bare
      | multiplicative multiplicative _ _ =>
          exact Bool.noConfusion (multiplicative.symm.trans additive)
    refine ⟨?_, ?_, ?_, ?_⟩
    · rw [resolve_operator additive, resolveAdditive_operator additive]
      rfl
    · rw [resolved]
      exact remains value
    · rw [resolved]
      exact bare
    · rw [resolved]
      simp

theorem Supplied.resolveMultiplicative {state : Stacks} (supplied : Supplied state) :
    state.resolve (!·.isAdditive) = state.resolveMultiplicative.mapError .failed ∧
      ∀ next, state.resolveMultiplicative = .ok next →
        Supplied next ∧ awaits .product next.pending ∧
          parenCount next.pending = parenCount state.pending := by
  obtain ⟨values, pending⟩ := state
  rcases awaits_or_top pending with nothing | ⟨op, below, rfl⟩
  · have loose := awaits_product_of_sum nothing
    rw [resolveMultiplicative_eq_self loose]
    refine ⟨resolve_eq_self fun op below top => absurd top (nothing op below), ?_⟩
    rintro next ⟨⟩
    exact ⟨supplied, loose, rfl⟩
  · cases additive : op.isAdditive with
    | true =>
        have loose : awaits .product (.operator op :: below) := by
          rintro other rest ⟨⟩
          exact additive
        rw [resolveMultiplicative_eq_self loose]
        refine ⟨resolve_eq_self ?_, ?_⟩
        · rintro other rest ⟨⟩
          simp [additive]
        · rintro next ⟨⟩
          exact ⟨supplied, loose, rfl⟩
    | false =>
        obtain ⟨right, left, rest, rfl, remains⟩ := supplied.exists_pair
        have loose : awaits .product below := by
          cases supplied.layered with
          | additive other _ _ => exact Bool.noConfusion (additive.symm.trans other)
          | multiplicative _ loose _ => exact loose
        rw [resolveMultiplicative_operator additive]
        refine ⟨resolve_operator (by simp [additive]) left right rest below, ?_⟩
        intro next computed
        obtain ⟨value, _, rfl⟩ := map_eq_ok.1 computed
        exact ⟨remains value, loose, by simp⟩

/-! ## Between two tokens -/

/-- The stacks between two tokens, within `depth` open parentheses. Where an operand is
awaited, one value is there for each operator; where one has ended, one value more, and no
operator that multiplies is on top. -/
inductive Between (depth : Nat) : Bool → Stacks → Prop where
  | awaiting {state : Stacks} (layered : Layered state.pending)
      (counted : state.values.length = operatorCount state.pending)
      (nested : parenCount state.pending = depth) : Between depth false state
  | ended {state : Stacks} (supplied : Supplied state) (loose : awaits .product state.pending)
      (nested : parenCount state.pending = depth) : Between depth true state

private theorem Between.layered {depth : Nat} {ended : Bool} {state : Stacks}
    (between : Between depth ended state) : Layered state.pending := by
  cases between with
  | awaiting layered _ _ => exact layered
  | ended supplied _ _ => exact supplied.layered

private theorem between_empty : Between 0 false .empty :=
  .awaiting .nothing rfl rfl

section

variable {lookup : String → Option Float} {depth : Nat} {ended : Bool} {state : Stacks}
  {token : Token}

theorem Between.operand {values : List Float} {pending : List Pending}
    (between : Between depth false ⟨values, pending⟩) (value : Float) :
    resolve (!·.isAdditive) ⟨value :: values, pending⟩ =
        (pushOperand ⟨values, pending⟩ value).mapError .failed ∧
      ∀ next, pushOperand ⟨values, pending⟩ value = .ok next → Between depth true next := by
  cases between with
  | awaiting layered counted nested =>
      have supplied : Supplied ⟨value :: values, pending⟩ := ⟨layered, congrArg Nat.succ counted⟩
      obtain ⟨same, remains⟩ := supplied.resolveMultiplicative
      refine ⟨same, fun next pushed => ?_⟩
      obtain ⟨suppliedNext, loose, counts⟩ := remains next pushed
      exact .ended suppliedNext loose (counts.trans nested)

private theorem Between.openParen (between : Between depth false state) :
    Between (depth + 1) false ⟨state.values, .paren :: state.pending⟩ := by
  cases between with
  | awaiting layered counted nested =>
      refine .awaiting (.paren layered) ?_ ?_
      · rwa [operatorCount_paren]
      · rw [parenCount_paren, nested]

/-- After the operator that may be pending within it, the parenthesis is on top. -/
theorem Between.rightParen (between : Between (depth + 1) true state) :
    strictStep lookup state .rightParen =
        (step lookup state .rightParen).mapError .failed ∧
      ∀ next, step lookup state .rightParen = .ok next → Between depth true next := by
  cases between with
  | ended supplied loose nested =>
      obtain ⟨resolved, suppliedInner, bare, counts⟩ := supplied.resolveAdditive loose
      have inner : parenCount state.resolveAdditive.pending = depth + 1 := counts.trans nested
      rw [strictStep, step, resolved]
      generalize state.resolveAdditive = reached at *
      obtain ⟨values, pending⟩ := reached
      rcases pending with _ | ⟨_ | op, below⟩
      · cases inner
      · have suppliedOuter : Supplied ⟨values, below⟩ :=
          ⟨suppliedInner.layered.of_suffix (List.suffix_cons _ _), by
            simpa using suppliedInner.counted⟩
        obtain ⟨same, remains⟩ := suppliedOuter.resolveMultiplicative
        refine ⟨same, fun next read => ?_⟩
        obtain ⟨suppliedNext, looseNext, countsNext⟩ := remains next read
        refine .ended suppliedNext looseNext (countsNext.trans ?_)
        exact Nat.succ.inj ((parenCount_paren below).symm.trans inner)
      · exact absurd rfl (bare op below)

theorem Between.operator (between : Between depth true state) (op : Operator) :
    strictStep lookup state (.operator op) =
        (step lookup state (.operator op)).mapError .failed ∧
      ∀ next, step lookup state (.operator op) = .ok next → Between depth false next := by
  cases between with
  | ended supplied loose nested =>
      cases additive : op.isAdditive with
      | true =>
          obtain ⟨resolved, suppliedNext, bare, counts⟩ := supplied.resolveAdditive loose
          rw [strictStep, if_pos additive, resolved, step_operator_of_additive additive]
          refine ⟨rfl, ?_⟩
          rintro next ⟨⟩
          refine .awaiting (.additive additive bare suppliedNext.layered) ?_ ?_
          · rw [operatorCount_operator, suppliedNext.counted]
          · rw [parenCount_operator, counts, nested]
      | false =>
          rw [strictStep, if_neg (Bool.eq_false_iff.1 additive),
            step_operator_of_multiplicative additive]
          refine ⟨rfl, ?_⟩
          rintro next ⟨⟩
          refine .awaiting (.multiplicative additive loose supplied.layered) ?_ ?_
          · rw [operatorCount_operator, supplied.counted]
          · rw [parenCount_operator, nested]

/-- A token that suits what was read before it finds all that it needs, so that reading it
strictly makes no difference; and afterwards the stacks are again as they have to be. -/
theorem Between.step (between : Between depth ended state) (lookup : String → Option Float)
    (suits : token.startsOperand = !ended) (closes : token = .rightParen → 0 < depth) :
    strictStep lookup state token = (step lookup state token).mapError .failed ∧
      ∀ next, step lookup state token = .ok next →
        ∃ after, Between after token.endsOperand next ∧
          after + Token.closings [token] = depth + Token.openings [token] := by
  cases token with
  | leftParen =>
      obtain rfl : ended = false := by simpa [Token.startsOperand] using suits
      refine ⟨rfl, ?_⟩
      rintro next ⟨⟩
      exact ⟨depth + 1, between.openParen, rfl⟩
  | rightParen =>
      obtain rfl : ended = true := by simpa [Token.startsOperand, Token.isOperand] using suits
      obtain ⟨outer, rfl⟩ := Nat.exists_eq_succ_of_ne_zero (closes rfl).ne'
      obtain ⟨same, remains⟩ := between.rightParen
      exact ⟨same, fun next read => ⟨outer, remains next read, rfl⟩⟩
  | operator op =>
      obtain rfl : ended = true := by simpa [Token.startsOperand, Token.isOperand] using suits
      obtain ⟨same, remains⟩ := between.operator op
      exact ⟨same, fun next read => ⟨depth, remains next read, rfl⟩⟩
  | number value =>
      obtain rfl : ended = false := by simpa [Token.startsOperand, Token.isOperand] using suits
      obtain ⟨same, remains⟩ := between.operand value
      exact ⟨same, fun next read => ⟨depth, remains next read, rfl⟩⟩
  | name name =>
      obtain rfl : ended = false := by simpa [Token.startsOperand, Token.isOperand] using suits
      simp only [strictStep, Stacks.step]
      cases lookup name with
      | none => exact ⟨rfl, fun next failed => by cases failed⟩
      | some value =>
          obtain ⟨same, remains⟩ := between.operand value
          exact ⟨same, fun next read => ⟨depth, remains next read, rfl⟩⟩

/-! ## Whole runs -/

private theorem between_of_fitting {tokens : List Token} (fits : Token.Fitting tokens)
    (starts : ∀ first ∈ tokens.head?, first.startsOperand = true) :
    tokens.foldlM (strictStep lookup) .empty =
        (tokens.foldlM (step lookup) .empty).mapError .failed ∧
      ∀ state, tokens.foldlM (step lookup) .empty = .ok state →
        ∃ depth, Between depth (tokens.getLast?.any Token.endsOperand) state ∧
          depth + Token.closings tokens = Token.openings tokens := by
  induction tokens using List.reverseRecOn with
  | nil =>
      refine ⟨rfl, ?_⟩
      rintro state ⟨⟩
      exact ⟨0, between_empty, rfl⟩
  | append_singleton tokens token inductionHypothesis =>
      obtain ⟨fitsBefore, _, closes⟩ := Token.fitting_concat_iff.1 fits
      have suits := Token.startsOperand_of_fitting_concat fits starts
      obtain ⟨same, remains⟩ := inductionHypothesis fitsBefore fun first isFirst =>
        starts first (List.mem_head?_append_of_mem_head? isFirst)
      simp only [List.foldlM_append, List.foldlM_cons, List.foldlM_nil, bind_pure]
      rw [same]
      cases read : tokens.foldlM (Stacks.step lookup) .empty with
      | error cause => exact ⟨rfl, fun state failed => by cases failed⟩
      | ok state =>
          obtain ⟨depth, between, counted⟩ := remains state read
          have closesOpen : token = .rightParen → 0 < depth := by
            intro closing
            have room := closes closing
            omega
          obtain ⟨sameStep, remainsStep⟩ := between.step lookup suits closesOpen
          refine ⟨sameStep, fun next readLast => ?_⟩
          obtain ⟨after, betweenNext, countedLast⟩ := remainsStep next readLast
          refine ⟨after, by simpa using betweenNext, ?_⟩
          simp only [Token.closings_append, Token.openings_append]
          omega

/-- At the end one value is left, and nothing is pending, once a last operator is resolved. -/
theorem Between.result (between : Between 0 true state) :
    (∃ value, state.resolveAdditive = ⟨[value], []⟩) ∧ strictResult state = .ok state.result := by
  cases between with
  | ended supplied loose nested =>
      obtain ⟨resolved, suppliedEnd, bare, counts⟩ := supplied.resolveAdditive loose
      have noParen := counts.trans nested
      rw [strictResult, resolved, Stacks.result]
      generalize state.resolveAdditive = reached at *
      obtain ⟨values, pending⟩ := reached
      rcases pending with _ | ⟨_ | op, below⟩
      · obtain ⟨value, rfl⟩ := List.length_eq_one_iff.1 suppliedEnd.counted
        exact ⟨⟨value, rfl⟩, rfl⟩
      · rw [parenCount_paren] at noParen
        cases noParen
      · exact absurd rfl (bare op below)

end

end Stacks

namespace Formula

/-- The value of a formula by an evaluation that stops where something is missing. -/
def evaluateStrictly (formula : Formula) (lookup : String → Option Float) : Except Halt Float :=
  formula.tokens.foldlM (Stacks.strictStep lookup) Stacks.empty >>= Stacks.strictResult

variable {rules : NameRules} {text : String} {formula : Formula}

/-- Reading the first tokens of a formula strictly makes no difference, and leaves the stacks
as they have to be. -/
theorem between_of_part (read : ofText rules text = .ok formula)
    (lookup : String → Option Float) {before : List Token} (part : before <+: formula.tokens) :
    before.foldlM (Stacks.strictStep lookup) .empty =
        (before.foldlM (Stacks.step lookup) .empty).mapError .failed ∧
      ∀ state, before.foldlM (Stacks.step lookup) .empty = .ok state →
        ∃ depth, Stacks.Between depth (before.getLast?.any Token.endsOperand) state ∧
          depth + Token.closings before = Token.openings before := by
  have complete := Token.complete_of_derives (derives_of_ofText read)
  obtain ⟨first, isFirst, starts⟩ := complete.starts
  obtain ⟨after, split⟩ := part
  rw [← split] at isFirst
  have fits : Token.Fitting (before ++ after) := by
    rw [split]
    exact complete.fits
  refine Stacks.between_of_fitting fits.of_append fun other isOther => ?_
  have same := Option.mem_unique isFirst (List.mem_head?_append_of_mem_head? isOther)
  rwa [← same]

private theorem between_of_foldlM (read : ofText rules text = .ok formula)
    {lookup : String → Option Float} {final : Stacks}
    (reached : formula.tokens.foldlM (Stacks.step lookup) .empty = .ok final) :
    Stacks.Between 0 true final := by
  have complete := Token.complete_of_derives (derives_of_ofText read)
  obtain ⟨last, isLast, ends⟩ := complete.ends
  obtain ⟨depth, between, counted⟩ :=
    (between_of_part read lookup (List.prefix_refl _)).2 final reached
  have balanced := complete.balanced
  obtain rfl : depth = 0 := by omega
  rwa [Option.mem_def.1 isLast, Option.any_some, ends] at between

theorem evaluateStrictly_eq (read : ofText rules text = .ok formula)
    (lookup : String → Option Float) :
    formula.evaluateStrictly lookup = (formula.evaluate lookup).mapError .failed := by
  obtain ⟨same, _⟩ := between_of_part read lookup (List.prefix_refl formula.tokens)
  rw [evaluateStrictly, same, evaluate, evaluateTokens]
  cases reached : formula.tokens.foldlM (Stacks.step lookup) .empty with
  | error cause => rfl
  | ok final => exact (between_of_foldlM read reached).result.2

/-- The evaluation of a formula finds every value and every parenthesis that it takes off its
stacks: an evaluation that stops where one of them is missing is the same. At any time, also
while operators are taken off, no more is pending within one pair of parentheses than an
operator that adds and then one that multiplies; and if nothing fails, one value and no
operator is left. -/
theorem evaluateStrictly_eq_and_layers (read : ofText rules text = .ok formula)
    (lookup : String → Option Float) :
    formula.evaluateStrictly lookup = (formula.evaluate lookup).mapError .failed ∧
      (∀ before state, before <+: formula.tokens →
        before.foldlM (Stacks.step lookup) .empty = .ok state →
          ∀ pending, pending <:+ state.pending →
            ∀ layer ∈ pending.splitOn .paren, Stacks.IsLayer layer) ∧
      ∀ final, formula.tokens.foldlM (Stacks.step lookup) .empty = .ok final →
        ∃ value, final.resolveAdditive = ⟨[value], []⟩ := by
  refine ⟨evaluateStrictly_eq read lookup, ?_, ?_⟩
  · intro before state part reached pending suffix
    obtain ⟨depth, between, _⟩ := (between_of_part read lookup part).2 state reached
    exact (between.layered.of_suffix suffix).isLayer
  · intro final reached
    exact (between_of_foldlM read reached).result.1

/-- Before its last operand a formula has two layers pending; and tokens that are no formula
do lack values, for which an evaluation takes zeros. -/
theorem evaluateStrictly_eq_and_layers_of_nested_sum :
    let formula : Formula :=
      ⟨[.name "A", .operator .sub, .number 2, .operator .mul, .leftParen, .name "B",
        .operator .add, .number 1, .rightParen]⟩
    let pending : List Pending := [.operator .add, .paren, .operator .mul, .operator .sub]
    let lookup : String → Option Float := fun _ => some 4
    ofText ⟨Text.upper, fun _ => true⟩ "a - 2*(b + 1)" = .ok formula ∧
      formula.evaluateStrictly lookup = (formula.evaluate lookup).mapError .failed ∧
      (formula.tokens.take 7).foldlM (Stacks.step lookup) .empty = .ok ⟨[4, 2, 4], pending⟩ ∧
      (∀ layer ∈ pending.splitOn .paren, Stacks.IsLayer layer) ∧
      (Formula.mk [.operator .sub, .number 2]).evaluate lookup = .ok (-2) ∧
      (Formula.mk [.operator .sub, .number 2]).evaluateStrictly lookup =
        .error .missingValue := by
  intro formula pending lookup
  have read : ofText ⟨Text.upper, fun _ => true⟩ "a - 2*(b + 1)" = .ok formula := by
    rw [← toOption_eq_some]
    decide +kernel
  have reached : (formula.tokens.take 7).foldlM (Stacks.step lookup) .empty =
      .ok ⟨[4, 2, 4], pending⟩ := by
    decide +kernel
  obtain ⟨same, layers, _⟩ := evaluateStrictly_eq_and_layers read lookup
  exact ⟨read, same, reached,
    layers _ _ (List.take_prefix 7 _) reached pending (List.suffix_refl _),
    by decide +kernel, by decide +kernel⟩

end Formula

end Reckon
