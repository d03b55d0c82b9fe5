import Reckon.Proofs.Grammar
import Reckon.Text.Casing

/-!
Parse trees of formulas and their values. Products and quotients bind more tightly than
sums and differences, both group to the left, and parentheses group what is in them.
Every formula has exactly one parse tree, and the value that is computed in one pass
over its tokens, with two stacks, is the value of that tree.
-/

namespace Reckon

/-- How tightly a parse tree holds together. -/
inductive Binding where
  | sum
  | product
  | operand

def Binding.joins : Binding → Operator → Bool
  | .sum, _ => true
  | .product, op => !op.isAdditive
  | .operand, _ => false

/-- Parse trees. The right operand of an operator binds more tightly than the operator
does, so that operators that bind equally group to the left. -/
inductive ParseTree : Binding → Type where
  | number (value : Float) : ParseTree .operand
  | name (text : String) : ParseTree .operand
  | parens (inner : ParseTree .sum) : ParseTree .operand
  | ofOperand (operand : ParseTree .operand) : ParseTree .product
  | multiplied (left : ParseTree .product) (op : Operator)
      (multiplicative : op.isAdditive = false) (right : ParseTree .operand) : ParseTree .product
  | ofProduct (product : ParseTree .product) : ParseTree .sum
  | added (left : ParseTree .sum) (op : Operator)
      (additive : op.isAdditive = true) (right : ParseTree .product) : ParseTree .sum

/-- The result of an operator. No number is divided by a zero of either sign. -/
def Operator.apply (op : Operator) (left right : Float) : Except EvalError Float :=
  match op with
  | .add => .ok (left + right)
  | .sub => .ok (left - right)
  | .mul => .ok (left * right)
  | .div => if right == 0 then .error .divisionByZero else .ok (left / right)

example : Operator.apply .div 1 (-0.0) = .error .divisionByZero := by decide

namespace ParseTree

def tokens : {binding : Binding} → ParseTree binding → List Token
  | _, .number value => [.number value]
  | _, .name text => [.name text]
  | _, .parens inner => .leftParen :: inner.tokens ++ [.rightParen]
  | _, .ofOperand operand => operand.tokens
  | _, .multiplied left op _ right => left.tokens ++ .operator op :: right.tokens
  | _, .ofProduct product => product.tokens
  | _, .added left op _ right => left.tokens ++ .operator op :: right.tokens

/-- The value of a parse tree: the left operand is evaluated first, then the right one,
and then the operator is applied; the first failure is the outcome. -/
def evaluate (lookup : String → Option Float) :
    {binding : Binding} → ParseTree binding → Except EvalError Float
  | _, .number value => .ok value
  | _, .name text =>
      match lookup text with
      | some value => .ok value
      | none => .error (.undefinedVariable text)
  | _, .parens inner => inner.evaluate lookup
  | _, .ofOperand operand => operand.evaluate lookup
  | _, .multiplied left op _ right => do
      let leftValue ← left.evaluate lookup
      let rightValue ← right.evaluate lookup
      op.apply leftValue rightValue
  | _, .ofProduct product => product.evaluate lookup
  | _, .added left op _ right => do
      let leftValue ← left.evaluate lookup
      let rightValue ← right.evaluate lookup
      op.apply leftValue rightValue

/-! ## Every expression has one parse tree -/

/-- The tree for one more operator and operand after those of a tree: they join the last
product if they bind as tightly. -/
theorem exists_tokens_eq_append
    (left : ParseTree .sum) (op : Operator) (right : ParseTree .operand) :
    ∃ tree : ParseTree .sum, tree.tokens = left.tokens ++ .operator op :: right.tokens := by
  cases kind : op.isAdditive with
  | true => exact ⟨.added left op kind (.ofOperand right), rfl⟩
  | false =>
      cases left with
      | ofProduct product => exact ⟨.ofProduct (.multiplied product op kind right), rfl⟩
      | added first other additive product =>
          refine ⟨.added first other additive (.multiplied product op kind right), ?_⟩
          simp [tokens]

/-- The parse trees of what the grammar derives: sums for expressions, and operands for
terms. -/
theorem exists_tokens_eq_of_derives
    {phrase : Phrase} {derived : List Token} (derives : Derives phrase derived) :
    match phrase with
    | .expression => ∃ tree : ParseTree .sum, tree.tokens = derived
    | .term => ∃ tree : ParseTree .operand, tree.tokens = derived := by
  induction derives with
  | term _ parsed =>
      obtain ⟨tree, rfl⟩ := parsed
      exact ⟨.ofProduct (.ofOperand tree), rfl⟩
  | operation op _ _ parsedLeft parsedRight =>
      obtain ⟨left, rfl⟩ := parsedLeft
      obtain ⟨right, rfl⟩ := parsedRight
      exact exists_tokens_eq_append left op right
  | number value => exact ⟨.number value, rfl⟩
  | name text => exact ⟨.name text, rfl⟩
  | parens _ parsed =>
      obtain ⟨inner, rfl⟩ := parsed
      exact ⟨.parens inner, rfl⟩

private theorem complete_tokens {binding : Binding} (tree : ParseTree binding) :
    Token.Complete tree.tokens := by
  induction tree with
  | number value => exact Token.complete_singleton rfl
  | name text => exact Token.complete_singleton rfl
  | parens inner complete => exact complete.parens
  | ofOperand operand complete => exact complete
  | multiplied left op multiplicative right completeLeft completeRight =>
      exact completeLeft.operation op completeRight
  | ofProduct product complete => exact complete
  | added left op additive right completeLeft completeRight =>
      exact completeLeft.operation op completeRight

private theorem openings_le_closings_of_suffix
    {binding : Binding} {tree : ParseTree binding} {initial rest : List Token}
    (split : tree.tokens = initial ++ rest) :
    Token.openings rest ≤ Token.closings rest := by
  have complete := tree.complete_tokens
  have nested := complete.fits.nested initial ⟨rest, split.symm⟩
  have balanced := complete.balanced
  rw [split, Token.openings_append, Token.closings_append] at balanced
  omega

/-- Any other operator stands within parentheses that are closed after it. -/
theorem openings_lt_closings_after
    {binding : Binding} {tree : ParseTree binding} {op : Operator}
    (joins : binding.joins op = false) {initial rest : List Token}
    (split : tree.tokens = initial ++ .operator op :: rest) :
    Token.openings rest < Token.closings rest := by
  induction tree generalizing initial rest with
  | number value => simp [tokens, List.cons_eq_append_iff] at split
  | name text => simp [tokens, List.cons_eq_append_iff] at split
  | parens inner _ =>
      cases initial with
      | nil => cases split
      | cons first before =>
          have splitInner : inner.tokens ++ [.rightParen] = before ++ .operator op :: rest :=
            (List.cons.inj split).2
          rcases List.eq_nil_or_concat' rest with rfl | ⟨after, last, rfl⟩
          · have sameLast := (List.append_inj' splitInner rfl).2
            cases sameLast
          · have splitLast :
                inner.tokens ++ [.rightParen] = (before ++ .operator op :: after) ++ [last] := by
              rw [splitInner, List.append_assoc, List.cons_append]
            obtain ⟨splitTokens, sameLast⟩ := List.append_inj' splitLast rfl
            obtain rfl : Token.rightParen = last := List.head_eq_of_cons_eq sameLast
            rw [← List.singleton_append, ← List.append_assoc] at splitTokens
            have bounded := openings_le_closings_of_suffix splitTokens
            simp only [Token.openings_append, Token.closings_append, Token.openings_cons,
              Token.closings_cons, Token.openings_nil, Token.closings_nil, reduceCtorEq, if_true,
              if_false]
            omega
  | ofOperand operand inductionHypothesis => exact inductionHypothesis rfl split
  | multiplied left other multiplicative right leftHypothesis rightHypothesis =>
      have different : op ≠ other := by
        intro same
        subst same
        simp [Binding.joins, multiplicative] at joins
      rcases List.append_eq_append_iff.1 split with
        ⟨before, _, splitRight⟩ | ⟨after, splitLeft, afterOp⟩
      · cases before with
        | nil =>
            injection splitRight with sameOp
            injection sameOp with same
            exact absurd same.symm different
        | cons first before =>
            injection splitRight with _ splitRest
            exact rightHypothesis rfl splitRest
      · cases after with
        | nil =>
            injection afterOp with sameOp
            injection sameOp with same
            exact absurd same different
        | cons first after =>
            obtain ⟨sameOp, afterRight⟩ := List.cons.inj afterOp
            have sameRest : rest = after ++ .operator other :: right.tokens := afterRight
            subst sameOp sameRest
            have shallow := leftHypothesis joins splitLeft
            have balanced := right.complete_tokens.balanced
            simp only [Token.openings_append, Token.closings_append, Token.openings_cons,
              Token.closings_cons, reduceCtorEq, if_false]
            omega
  | ofProduct product _ => cases joins
  | added left other additive right _ _ => cases joins

private theorem joins_product {op : Operator} (additive : op.isAdditive = true) :
    Binding.product.joins op = false := by
  rw [Binding.joins, additive, Bool.not_true]

private theorem tokens_ne_append
    {binding : Binding} (tree : ParseTree binding) (before : List Token) {op : Operator}
    (joins : binding.joins op = false) (right : ParseTree binding) :
    tree.tokens ≠ before ++ .operator op :: right.tokens := by
  intro split
  have unclosed := openings_lt_closings_after joins split
  have balanced := right.complete_tokens.balanced
  omega

/-- Where the operands on the right hold more tightly than the operators before them, two
splits of the same tokens are one. -/
theorem split_unique
    {binding : Binding} {left otherLeft : List Token} {op otherOp : Operator}
    {right otherRight : ParseTree binding} (joins : binding.joins op = false)
    (otherJoins : binding.joins otherOp = false)
    (same : left ++ .operator op :: right.tokens =
      otherLeft ++ .operator otherOp :: otherRight.tokens) :
    left = otherLeft ∧ op = otherOp ∧ right.tokens = otherRight.tokens := by
  rcases List.append_eq_append_iff.1 same with
    ⟨between, rfl, splitRight⟩ | ⟨between, rfl, splitRight⟩
  · cases between with
    | nil =>
        injection splitRight with sameOp sameRight
        injection sameOp with sameOperator
        exact ⟨by simp, sameOperator, sameRight⟩
    | cons first between =>
        injection splitRight with _ split
        exact absurd split (tokens_ne_append _ between otherJoins _)
  · cases between with
    | nil =>
        injection splitRight with sameOp sameRight
        injection sameOp with sameOperator
        exact ⟨by simp, sameOperator.symm, sameRight.symm⟩
    | cons first between =>
        injection splitRight with _ split
        exact absurd split (tokens_ne_append _ between joins _)

/-- Different trees are written differently. -/
theorem eq_of_tokens_eq
    {binding : Binding} {tree other : ParseTree binding} (same : tree.tokens = other.tokens) :
    tree = other := by
  induction tree with
  | number value =>
      cases other with
      | number otherValue =>
          injection same with sameToken
          injection sameToken with sameValue
          rw [sameValue]
      | name text => cases same
      | parens inner => cases same
  | name text =>
      cases other with
      | number value => cases same
      | name otherText =>
          injection same with sameToken
          injection sameToken with sameText
          rw [sameText]
      | parens inner => cases same
  | parens inner inductionHypothesis =>
      cases other with
      | number value => cases same
      | name text => cases same
      | parens otherInner =>
          injection same with _ sameRest
          rw [inductionHypothesis (List.append_cancel_right sameRest)]
  | ofOperand operand inductionHypothesis =>
      cases other with
      | ofOperand otherOperand => rw [inductionHypothesis same]
      | multiplied left op multiplicative right =>
          exact absurd same (operand.tokens_ne_append left.tokens rfl right)
  | multiplied left op multiplicative right leftHypothesis rightHypothesis =>
      cases other with
      | ofOperand otherOperand =>
          exact absurd same.symm (otherOperand.tokens_ne_append left.tokens rfl right)
      | multiplied otherLeft otherOp otherMultiplicative otherRight =>
          obtain ⟨sameLeft, sameOp, sameRight⟩ := split_unique rfl rfl same
          subst sameOp
          rw [leftHypothesis sameLeft, rightHypothesis sameRight]
  | ofProduct product inductionHypothesis =>
      cases other with
      | ofProduct otherProduct => rw [inductionHypothesis same]
      | added left op additive right =>
          exact absurd same (product.tokens_ne_append left.tokens (joins_product additive) right)
  | added left op additive right leftHypothesis rightHypothesis =>
      cases other with
      | ofProduct otherProduct =>
          exact absurd same.symm
            (otherProduct.tokens_ne_append left.tokens (joins_product additive) right)
      | added otherLeft otherOp otherAdditive otherRight =>
          obtain ⟨sameLeft, sameOp, sameRight⟩ :=
            split_unique (joins_product additive) (joins_product otherAdditive) same
          subst sameOp
          rw [leftHypothesis sameLeft, rightHypothesis sameRight]

end ParseTree

/-! ## What the stacks do with a tree -/

private theorem both_error_or_both_ok_of_map_eq_map
    {ε α β γ : Type} {first : Except ε α} {second : Except ε β} {change : α → γ} {other : β → γ}
    (same : first.map change = second.map other) :
    (∃ cause, first = .error cause ∧ second = .error cause) ∨
      ∃ left right, first = .ok left ∧ second = .ok right ∧ change left = other right := by
  cases first with
  | error cause =>
      cases second with
      | error otherCause =>
          injection same with sameCause
          exact Or.inl ⟨cause, rfl, sameCause ▸ rfl⟩
      | ok right => cases same
  | ok left =>
      cases second with
      | error cause => cases same
      | ok right =>
          injection same with sameValue
          exact Or.inr ⟨left, right, rfl, rfl, sameValue⟩

namespace Stacks

/-- Whether the operator that was put off last, if any, may wait while more of the
tokens of such a tree are read. -/
def awaits : Binding → List Pending → Prop
  | .sum, pending => ∀ op below, pending ≠ .operator op :: below
  | .product, pending => ∀ op below, pending = .operator op :: below → op.isAdditive = true
  | .operand, _ => True

theorem resolveAdditive_eq_self
    {values : List Float} {pending : List Pending} (nothing : awaits .sum pending) :
    resolveAdditive ⟨values, pending⟩ = ⟨values, pending⟩ := by
  unfold resolveAdditive
  split
  · next below top => exact absurd top (nothing _ _)
  · next below top => exact absurd top (nothing _ _)
  · rfl

theorem resolveMultiplicative_eq_self
    {values : List Float} {pending : List Pending} (loose : awaits .product pending) :
    resolveMultiplicative ⟨values, pending⟩ = .ok ⟨values, pending⟩ := by
  unfold resolveMultiplicative
  split
  · next below top => cases loose _ _ top
  · next below top => cases loose _ _ top
  · rfl

theorem resolveMultiplicative_operator
    {op : Operator} (multiplicative : op.isAdditive = false) (left right : Float)
    (values : List Float) (pending : List Pending) :
    resolveMultiplicative ⟨right :: left :: values, .operator op :: pending⟩ =
      (op.apply left right).map fun value => ⟨value :: values, pending⟩ := by
  cases op with
  | add => cases multiplicative
  | sub => cases multiplicative
  | mul => rfl
  | div =>
      by_cases zero : (right == 0) = true
      · simp [resolveMultiplicative, popPair, Operator.apply, zero, Except.map]
      · simp [resolveMultiplicative, popPair, Operator.apply, zero, Except.map]

theorem resolveAdditive_operator
    {op : Operator} (additive : op.isAdditive = true) (left right : Float)
    (values : List Float) (pending : List Pending) :
    (op.apply left right).map (fun value => (⟨value :: values, pending⟩ : Stacks)) =
      .ok (resolveAdditive ⟨right :: left :: values, .operator op :: pending⟩) := by
  cases op with
  | add => rfl
  | sub => rfl
  | mul => cases additive
  | div => cases additive

theorem step_operator_of_additive
    {op : Operator} (additive : op.isAdditive = true) (lookup : String → Option Float)
    (state : Stacks) :
    state.step lookup (.operator op) =
      .ok ⟨state.resolveAdditive.values, .operator op :: state.resolveAdditive.pending⟩ := by
  simp only [step, additive, if_true]

theorem step_operator_of_multiplicative
    {op : Operator} (multiplicative : op.isAdditive = false) (lookup : String → Option Float)
    (state : Stacks) :
    state.step lookup (.operator op) = .ok ⟨state.values, .operator op :: state.pending⟩ := by
  simp only [step, multiplicative, Bool.false_eq_true, if_false]

/-- What reading the tokens of a tree does to the stacks. An operand is pushed with its
value, a product leaves its value on top, and so does a sum once the operator is
resolved that it may have left pending. -/
def Computes (lookup : String → Option Float) : (binding : Binding) → ParseTree binding → Prop
  | .operand, tree => ∀ state : Stacks,
      tree.tokens.foldlM (step lookup) state = tree.evaluate lookup >>= state.pushOperand
  | .product, tree => ∀ values pending, awaits .product pending →
      tree.tokens.foldlM (step lookup) ⟨values, pending⟩ =
        (tree.evaluate lookup).map fun value => ⟨value :: values, pending⟩
  | .sum, tree => ∀ values pending, awaits .sum pending →
      (tree.tokens.foldlM (step lookup) ⟨values, pending⟩).map resolveAdditive =
        (tree.evaluate lookup).map fun value => ⟨value :: values, pending⟩

/-- By induction on the tree. -/
theorem computes (lookup : String → Option Float) {binding : Binding} (tree : ParseTree binding) :
    Computes lookup binding tree := by
  induction tree with
  | number value =>
      intro state
      rw [ParseTree.tokens, List.foldlM_cons]
      exact bind_pure (state.pushOperand value)
  | name text =>
      intro state
      rw [ParseTree.tokens, List.foldlM_cons]
      simp only [ParseTree.evaluate, List.foldlM_nil, step, bind_pure]
      cases lookup text with
      | none => rfl
      | some value => rfl
  | parens inner computesInner =>
      intro state
      have read := computesInner state.values (.paren :: state.pending) (by simp [awaits])
      rw [ParseTree.tokens, ParseTree.evaluate, List.cons_append, List.foldlM_cons]
      change (inner.tokens ++ [Token.rightParen]).foldlM (step lookup)
        ⟨state.values, .paren :: state.pending⟩ = _
      rw [List.foldlM_append]
      rcases both_error_or_both_ok_of_map_eq_map read with
        ⟨cause, stopped, failed⟩ | ⟨reached, value, arrived, computed, resolved⟩
      · rw [stopped, failed]
        rfl
      · rw [arrived, computed]
        change reached.step lookup .rightParen >>= pure = state.pushOperand value
        rw [bind_pure, step, resolved]
        rfl
  | ofOperand operand computesOperand =>
      intro values pending loose
      have pushed := computesOperand ⟨values, pending⟩
      rw [ParseTree.tokens, pushed, ParseTree.evaluate]
      cases operand.evaluate lookup with
      | error cause => rfl
      | ok value => exact resolveMultiplicative_eq_self loose
  | multiplied left op multiplicative right computesLeft computesRight =>
      intro values pending loose
      have readLeft := computesLeft values pending loose
      rw [ParseTree.tokens, List.foldlM_append, readLeft, ParseTree.evaluate]
      cases left.evaluate lookup with
      | error cause => rfl
      | ok leftValue =>
          have readRight := computesRight ⟨leftValue :: values, .operator op :: pending⟩
          change ((.operator op :: right.tokens).foldlM (step lookup)
              ⟨leftValue :: values, pending⟩) =
            (right.evaluate lookup >>= op.apply leftValue).map _
          rw [List.foldlM_cons, step_operator_of_multiplicative multiplicative]
          change right.tokens.foldlM (step lookup)
            ⟨leftValue :: values, .operator op :: pending⟩ = _
          rw [readRight]
          cases right.evaluate lookup with
          | error cause => rfl
          | ok rightValue =>
              exact
                resolveMultiplicative_operator multiplicative leftValue rightValue values pending
  | ofProduct product computesProduct =>
      intro values pending nothing
      have read := computesProduct values pending fun op below top => absurd top (nothing op below)
      rw [ParseTree.tokens, read, ParseTree.evaluate]
      cases product.evaluate lookup with
      | error cause => rfl
      | ok value => exact congrArg Except.ok (resolveAdditive_eq_self nothing)
  | added left op additive right computesLeft computesRight =>
      intro values pending nothing
      have readLeft := computesLeft values pending nothing
      rw [ParseTree.tokens, List.foldlM_append, ParseTree.evaluate]
      rcases both_error_or_both_ok_of_map_eq_map readLeft with
        ⟨cause, stopped, failed⟩ | ⟨reached, leftValue, arrived, computed, resolved⟩
      · rw [stopped, failed]
        rfl
      · rw [arrived, computed]
        change ((Token.operator op :: right.tokens).foldlM (step lookup) reached).map
            resolveAdditive =
          (right.evaluate lookup >>= op.apply leftValue).map _
        rw [List.foldlM_cons, step_operator_of_additive additive, resolved]
        change (right.tokens.foldlM (step lookup)
          ⟨leftValue :: values, .operator op :: pending⟩).map resolveAdditive = _
        have loose : awaits .product (.operator op :: pending) := by
          intro other below top
          injection top with sameOp
          injection sameOp with same
          rw [← same, additive]
        rw [computesRight _ _ loose]
        cases right.evaluate lookup with
        | error cause => rfl
        | ok rightValue =>
            exact (resolveAdditive_operator additive leftValue rightValue values pending).symm

end Stacks

/-- The value that two stacks compute from the tokens of a parse tree is the value of the
tree. -/
theorem evaluateTokens_tokens (lookup : String → Option Float) (tree : ParseTree .sum) :
    evaluateTokens lookup tree.tokens = tree.evaluate lookup := by
  have read := Stacks.computes lookup tree [] [] (by simp [Stacks.awaits])
  unfold evaluateTokens
  rcases both_error_or_both_ok_of_map_eq_map read with
    ⟨cause, stopped, failed⟩ | ⟨reached, value, arrived, computed, resolved⟩
  · rw [Stacks.empty, stopped, failed]
    rfl
  · rw [Stacks.empty, arrived, computed, Except.map, Stacks.result, resolved]
    rfl

/-- A text that is a formula has exactly one parse tree, whatever the rules for names,
and the value of the formula is that of the tree, whatever the values of names. -/
theorem Formula.evaluate_eq_evaluate_parseTree
    (rules : NameRules) (text : String) (formula : Formula)
    (read : Formula.ofText rules text = .ok formula) :
    ∃ tree : ParseTree .sum, tree.tokens = formula.tokens ∧
      (∀ other : ParseTree .sum, other.tokens = formula.tokens → other = tree) ∧
      ∀ lookup, formula.evaluate lookup = tree.evaluate lookup := by
  obtain ⟨raw, _, derives, _, renamed⟩ := (ofText_eq_ok_iff_derives rules text formula).1 read
  have derivesCanonical : Derives .expression formula.tokens := by
    rw [renamed]
    exact derives.renamed rules
  obtain ⟨tree, written⟩ := ParseTree.exists_tokens_eq_of_derives derivesCanonical
  refine ⟨tree, written, ?_, ?_⟩
  · intro other sameTokens
    exact ParseTree.eq_of_tokens_eq (sameTokens.trans written.symm)
  · intro lookup
    rw [evaluate, ← written, evaluateTokens_tokens]

theorem Formula.evaluate_eq_evaluate_parseTree_of_quotient :
    let formula : Formula :=
      ⟨[.name "X", .operator .sub, .name "Y", .operator .div, .leftParen, .name "Z",
        .operator .add, .number 2, .rightParen]⟩
    let quotient : ParseTree .product :=
      .multiplied (.ofOperand (.name "Y")) .div rfl
        (.parens (.added (.ofProduct (.ofOperand (.name "Z"))) .add rfl (.ofOperand (.number 2))))
    Formula.ofText ⟨Text.upper, fun _ => true⟩ "x - y/(z + 2)" = .ok formula ∧
      ∀ lookup, formula.evaluate lookup =
        (ParseTree.added (.ofProduct (.ofOperand (.name "X"))) .sub rfl quotient).evaluate
          lookup := by
  intro formula quotient
  have read : Formula.ofText ⟨Text.upper, fun _ => true⟩ "x - y/(z + 2)" = .ok formula := by
    rw [← toOption_eq_some]
    decide +kernel
  obtain ⟨tree, _, unique, values⟩ := Formula.evaluate_eq_evaluate_parseTree _ _ formula read
  rw [unique (.added (.ofProduct (.ofOperand (.name "X"))) .sub rfl quotient) rfl]
  exact ⟨read, values⟩

end Reckon
