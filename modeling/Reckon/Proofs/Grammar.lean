import Mathlib.Data.List.Chain
import Reckon.Proofs.Contents

/-!
The grammar of formulas. An expression is a term, or an expression, an operator and
a term; a term is a number, a name, or an expression in parentheses.

Formulas are not read along this grammar: a text is checked token by token, where
each token is held against the one before it and against the parentheses so far, and
the first and the last token are looked at in the end. Such checks see all of the
grammar: a text is a formula exactly when its tokens are an expression and the
canonical forms of its names are well-formed and accepted.
-/

namespace Reckon

inductive Phrase where
  | expression
  | term

inductive Derives : Phrase → List Token → Prop where
  | term {tokens : List Token} (derives : Derives .term tokens) :
      Derives .expression tokens
  | operation {left right : List Token} (op : Operator)
      (derivesLeft : Derives .expression left) (derivesRight : Derives .term right) :
      Derives .expression (left ++ .operator op :: right)
  | number (value : Float) : Derives .term [.number value]
  | name (text : String) : Derives .term [.name text]
  | parens {inner : List Token} (derives : Derives .expression inner) :
      Derives .term (.leftParen :: inner ++ [.rightParen])

/-! ## Canonical names -/

namespace Token

def renamed (rules : NameRules) : Token → Token
  | .name written => .name (rules.canonical written)
  | token => token

@[simp]
theorem startsOperand_renamed (rules : NameRules) (token : Token) :
    (token.renamed rules).startsOperand = token.startsOperand := by
  cases token <;> rfl

@[simp]
theorem endsOperand_renamed (rules : NameRules) (token : Token) :
    (token.renamed rules).endsOperand = token.endsOperand := by
  cases token <;> rfl

private theorem allowed_renamed_iff {rules : NameRules} {token : Token} :
    (token.renamed rules).Allowed rules ↔
      ∀ written, token = .name written →
        isName (rules.canonical written) = true ∧
          rules.accepts (rules.canonical written) = true := by
  cases token with
  | name text => simp [Allowed, renamed]
  | leftParen => simp [Allowed, renamed]
  | rightParen => simp [Allowed, renamed]
  | operator op => simp [Allowed, renamed]
  | number value => simp [Allowed, renamed]

theorem canonical_eq_ok_iff
    {rules : NameRules} {position : Nat} {token found : Token} :
    token.canonical rules position = .ok found ↔
      (token.renamed rules).Allowed rules ∧ found = token.renamed rules := by
  rw [allowed_renamed_iff, @eq_comm _ found]
  cases token with
  | name text =>
      by_cases accepted : isName (rules.canonical text) = true ∧
          rules.accepts (rules.canonical text) = true
      · simp [canonical, renamed, accepted]
      · simp [canonical, renamed, accepted]
  | leftParen => simp [canonical, renamed]
  | rightParen => simp [canonical, renamed]
  | operator op => simp [canonical, renamed]
  | number value => simp [canonical, renamed]

def openings (tokens : List Token) : Nat :=
  tokens.count .leftParen

def closings (tokens : List Token) : Nat :=
  tokens.count .rightParen

@[simp]
theorem openings_append (left right : List Token) :
    openings (left ++ right) = openings left + openings right :=
  List.count_append

@[simp]
theorem closings_append (left right : List Token) :
    closings (left ++ right) = closings left + closings right :=
  List.count_append

@[simp]
theorem openings_cons (first : Token) (rest : List Token) :
    openings (first :: rest) = openings rest + if first = .leftParen then 1 else 0 := by
  simp [openings, List.count_cons]

@[simp]
theorem closings_cons (first : Token) (rest : List Token) :
    closings (first :: rest) = closings rest + if first = .rightParen then 1 else 0 := by
  simp [closings, List.count_cons]

@[simp]
theorem openings_nil : openings [] = 0 :=
  rfl

@[simp]
theorem closings_nil : closings [] = 0 :=
  rfl

end Token

theorem Derives.renamed
    {phrase : Phrase} {tokens : List Token} (derives : Derives phrase tokens) (rules : NameRules) :
    Derives phrase (tokens.map (Token.renamed rules)) := by
  induction derives with
  | term _ derivesTerm => exact .term derivesTerm
  | operation op _ _ derivesLeft derivesRight =>
      rw [List.map_append, List.map_cons]
      exact .operation op derivesLeft derivesRight
  | number value => exact .number value
  | name text => exact .name (rules.canonical text)
  | parens _ derivesInner =>
      rw [List.map_append, List.map_cons]
      exact .parens derivesInner

namespace Token

/-! ## What the checks see -/

/-- Neighbours suit each other, and no parenthesis is closed that is not open. -/
structure Fitting (tokens : List Token) : Prop where
  adjacent : tokens.IsChain fun previous next => previous.mayFollow next = true
  nested : ∀ initial, initial <+: tokens → closings initial ≤ openings initial

private theorem fitting_nil : Fitting [] where
  adjacent := .nil
  nested initial before := by
    rw [List.prefix_nil.1 before]
    exact Nat.le_refl 0

theorem Fitting.append
    {left right : List Token} (fitsLeft : Fitting left) (fitsRight : Fitting right)
    (meet : ∀ previous ∈ left.getLast?, ∀ next ∈ right.head?, previous.mayFollow next = true) :
    Fitting (left ++ right) where
  adjacent := List.isChain_append.2 ⟨fitsLeft.adjacent, fitsRight.adjacent, meet⟩
  nested initial before := by
    rcases List.prefix_or_prefix_of_prefix before (List.prefix_append left right) with
      inside | beyond
    · exact fitsLeft.nested initial inside
    · obtain ⟨rest, equality⟩ := beyond
      subst equality
      have countedLeft := fitsLeft.nested left (List.prefix_refl left)
      have countedRight := fitsRight.nested rest ((List.prefix_append_right_inj left).1 before)
      simp only [closings_append, openings_append]
      omega

theorem Fitting.of_append {left right : List Token} (fits : Fitting (left ++ right)) :
    Fitting left where
  adjacent := (List.isChain_append.1 fits.adjacent).1
  nested initial before := fits.nested initial (before.trans (List.prefix_append left right))

theorem fitting_concat_iff {tokens : List Token} {token : Token} :
    Fitting (tokens ++ [token]) ↔
      Fitting tokens ∧
        (∀ previous ∈ tokens.getLast?, previous.mayFollow token = true) ∧
          (token = .rightParen → closings tokens < openings tokens) := by
  constructor
  · intro fits
    obtain ⟨adjacent, _, meet⟩ := List.isChain_append.1 fits.adjacent
    refine ⟨⟨adjacent, fun initial before => ?_⟩, ?_, ?_⟩
    · exact fits.nested initial (before.trans (List.prefix_append tokens [token]))
    · intro previous last
      exact meet previous last token rfl
    · intro closes
      subst closes
      have counted := fits.nested _ (List.prefix_refl _)
      simp only [closings_append, openings_append, closings_cons, openings_cons, closings_nil,
        openings_nil, reduceCtorEq, if_true, if_false] at counted
      omega
  · intro parts
    obtain ⟨fits, meet, closes⟩ := parts
    refine ⟨?_, fun initial before => ?_⟩
    · refine List.isChain_append.2
        ⟨fits.adjacent, .singleton token, fun previous last next first => ?_⟩
      obtain rfl : token = next := by simpa using first
      exact meet previous last
    · rcases List.prefix_concat_iff.1 before with whole | inside
      · subst whole
        have counted := fits.nested tokens (List.prefix_refl tokens)
        simp only [closings_append, openings_append, closings_cons, openings_cons, closings_nil,
          openings_nil]
        by_cases isClosing : token = .rightParen
        · have room := closes isClosing
          simp only [isClosing, if_true, reduceCtorEq, if_false]
          omega
        · rw [if_neg isClosing]
          omega
      · exact fits.nested initial inside

end Token

open Token

namespace Formula.Checked

/-- The state in which tokens that pass all checks leave off. -/
def passed (rules : NameRules) (tokens : List Token) : Checked :=
  ⟨(tokens.map (Token.renamed rules)).reverse, tokens.length, openings tokens, closings tokens⟩

private theorem admits_passed_iff {rules : NameRules} {tokens : List Token} {token : Token} :
    (passed rules tokens).admits token = true ↔
      ∀ previous ∈ tokens.getLast?, previous.mayFollow token = true := by
  rcases List.eq_nil_or_concat tokens with rfl | ⟨initial, last, rfl⟩
  · simp [passed, admits]
  · simp [passed, admits, mayFollow]

/-- A token passes when it suits the one before it, closes only what is open, and has
an acceptable name, if it has one. -/
theorem push_eq_ok_iff
    {rules : NameRules} {checked next : Checked} {token : Token} :
    checked.push rules token = .ok next ↔
      checked.admits token = true ∧ (token = .rightParen → checked.closed < checked.opened) ∧
        (token.renamed rules).Allowed rules ∧
          next = ⟨token.renamed rules :: checked.accepted, checked.count + 1,
            checked.opened + (if token = .leftParen then 1 else 0),
            checked.closed + (if token = .rightParen then 1 else 0)⟩ := by
  unfold push
  dsimp only
  split
  · next refused => simp [refused]
  · next admitted =>
      have admits : checked.admits token = true := by simpa using admitted
      split
      · next unmatched =>
          have noRoom : ¬ (token = .rightParen → checked.closed < checked.opened) :=
            fun closes => Nat.not_lt.2 unmatched.2 (closes unmatched.1)
          simp [noRoom]
      · next matched =>
          have room : token = .rightParen → checked.closed < checked.opened := fun closes =>
            Nat.lt_of_not_le fun tooMany => matched ⟨closes, tooMany⟩
          rw [map_eq_ok]
          constructor
          · rintro ⟨canonical, found, rfl⟩
            obtain ⟨allowed, rfl⟩ := canonical_eq_ok_iff.1 found
            exact ⟨admits, room, allowed, rfl⟩
          · rintro ⟨_, _, allowed, rfl⟩
            exact ⟨_, canonical_eq_ok_iff.2 ⟨allowed, rfl⟩, rfl⟩

private theorem push_passed_eq_ok_iff
    {rules : NameRules} {tokens : List Token} {token : Token} {next : Checked} :
    (passed rules tokens).push rules token = .ok next ↔
      (∀ previous ∈ tokens.getLast?, previous.mayFollow token = true) ∧
        (token = .rightParen → closings tokens < openings tokens) ∧
          (token.renamed rules).Allowed rules ∧ next = passed rules (tokens ++ [token]) := by
  rw [push_eq_ok_iff, admits_passed_iff]
  simp [passed]

/-- The tokens that pass all checks on the way are those that fit and have acceptable
names; by induction from the last token. -/
theorem foldlM_push_eq_ok_iff
    {rules : NameRules} {tokens : List Token} {final : Checked} :
    tokens.foldlM (push rules) start = .ok final ↔
      Fitting tokens ∧ (∀ token ∈ tokens, (token.renamed rules).Allowed rules) ∧
        final = passed rules tokens := by
  induction tokens using List.reverseRecOn generalizing final with
  | nil =>
      have same : (start = final) ↔ final = passed rules [] := eq_comm
      simpa [pure, Except.pure, fitting_nil] using same
  | append_singleton tokens token inductionHypothesis =>
      rw [List.foldlM_append, bind_eq_ok, fitting_concat_iff, List.forall_mem_append,
        List.forall_mem_singleton]
      simp only [List.foldlM_cons, List.foldlM_nil, bind_pure, inductionHypothesis]
      constructor
      · rintro ⟨_, ⟨fits, allowed, rfl⟩, pushed⟩
        obtain ⟨suits, closes, allowedLast, rfl⟩ := push_passed_eq_ok_iff.1 pushed
        exact ⟨⟨fits, suits, closes⟩, ⟨allowed, allowedLast⟩, rfl⟩
      · rintro ⟨⟨fits, suits, closes⟩, ⟨allowed, allowedLast⟩, rfl⟩
        exact ⟨_, ⟨fits, allowed, rfl⟩, push_passed_eq_ok_iff.2 ⟨suits, closes, allowedLast, rfl⟩⟩

end Formula.Checked

/-! ## The checks and the grammar -/

namespace Token

/-- All that the checks ask of tokens, their names apart. -/
structure Complete (tokens : List Token) : Prop where
  fits : Fitting tokens
  balanced : openings tokens = closings tokens
  starts : ∃ first ∈ tokens.head?, first.startsOperand = true
  ends : ∃ last ∈ tokens.getLast?, last.endsOperand = true

private theorem fitting_singleton {token : Token} (opens : token ≠ .rightParen) :
    Fitting [token] := by
  rw [← List.nil_append [token], fitting_concat_iff]
  exact ⟨fitting_nil, by simp, fun closes => absurd closes opens⟩

theorem complete_singleton {token : Token} (operand : token.isOperand = true) :
    Complete [token] := by
  cases token with
  | number value => exact ⟨fitting_singleton (by simp), by simp, by simp; rfl, by simp; rfl⟩
  | name text => exact ⟨fitting_singleton (by simp), by simp, by simp; rfl, by simp; rfl⟩
  | leftParen => cases operand
  | rightParen => cases operand
  | operator op => cases operand

theorem Complete.operation
    {left right : List Token} (completeLeft : Complete left) (op : Operator)
    (completeRight : Complete right) :
    Complete (left ++ .operator op :: right) where
  fits := by
    have fitsRight : Fitting ([.operator op] ++ right) := by
      refine (fitting_singleton (by simp)).append completeRight.fits ?_
      intro previous last next first
      obtain ⟨found, foundFirst, startsFound⟩ := completeRight.starts
      obtain rfl : next = found := Option.mem_unique first foundFirst
      obtain rfl : .operator op = previous := by simpa using last
      simp [mayFollow, startsFound, endsOperand, isOperand]
    refine completeLeft.fits.append fitsRight ?_
    intro previous last next first
    obtain ⟨found, foundLast, endsFound⟩ := completeLeft.ends
    obtain rfl : previous = found := Option.mem_unique last foundLast
    obtain rfl : .operator op = next := by simpa using first
    simp [mayFollow, endsFound, startsOperand, isOperand]
  balanced := by
    have balancedLeft := completeLeft.balanced
    have balancedRight := completeRight.balanced
    simp only [openings_append, closings_append, openings_cons, closings_cons, reduceCtorEq,
      if_false]
    omega
  starts := by
    obtain ⟨first, isFirst, starts⟩ := completeLeft.starts
    exact ⟨first, List.mem_head?_append_of_mem_head? isFirst, starts⟩
  ends := by
    obtain ⟨last, isLast, ends⟩ := completeRight.ends
    refine ⟨last, ?_, ends⟩
    exact List.mem_getLast?_append_of_mem_getLast? (List.mem_getLast?_cons isLast)

theorem Complete.parens {inner : List Token} (complete : Complete inner) :
    Complete (.leftParen :: inner ++ [.rightParen]) where
  fits := by
    obtain ⟨first, isFirst, starts⟩ := complete.starts
    obtain ⟨last, isLast, ends⟩ := complete.ends
    rw [fitting_concat_iff]
    refine ⟨?_, ?_, ?_⟩
    · refine (fitting_singleton (by simp)).append complete.fits ?_
      intro previous before next after
      obtain rfl : next = first := Option.mem_unique after isFirst
      obtain rfl : Token.leftParen = previous := by simpa using before
      simp [mayFollow, starts, endsOperand, isOperand]
    · intro previous before
      obtain rfl : previous = last :=
        Option.mem_unique before (List.mem_getLast?_cons isLast)
      simp [mayFollow, ends, startsOperand, isOperand]
    · intro _
      have balanced := complete.balanced
      simp only [openings_cons, closings_cons, reduceCtorEq, if_true, if_false]
      omega
  balanced := by
    simp [complete.balanced]
  starts := ⟨.leftParen, rfl, rfl⟩
  ends := ⟨.rightParen, List.getLast?_concat, rfl⟩

/-- What the grammar derives passes all checks. -/
theorem complete_of_derives {phrase : Phrase} {tokens : List Token}
    (derives : Derives phrase tokens) : Complete tokens := by
  induction derives with
  | term _ complete => exact complete
  | operation op _ _ completeLeft completeRight => exact completeLeft.operation op completeRight
  | number value => exact complete_singleton rfl
  | name text => exact complete_singleton rfl
  | parens _ complete => exact complete.parens

/-- What may stand before an operand: nothing, or an expression and an operator. -/
inductive Leading : List Token → Prop where
  | nothing : Leading []
  | operation {left : List Token} (derives : Derives .expression left) (op : Operator) :
      Leading (left ++ [.operator op])

/-- What may stand before an expression within `depth` open parentheses. -/
inductive Opening : Nat → List Token → Prop where
  | outermost : Opening 0 []
  | paren {depth : Nat} {before leading : List Token}
      (opening : Opening depth before) (leads : Leading leading) :
      Opening (depth + 1) (before ++ leading ++ [.leftParen])

/-- How far fitting tokens have come within `depth` open parentheses: the expression
in the innermost ones awaits an operand, or one has just ended there. -/
inductive Progress (depth : Nat) : Bool → List Token → Prop where
  | awaiting {before leading : List Token}
      (opening : Opening depth before) (leads : Leading leading) :
      Progress depth false (before ++ leading)
  | ended {before inner : List Token}
      (opening : Opening depth before) (derives : Derives .expression inner) :
      Progress depth true (before ++ inner)

theorem Leading.derives_append
    {leading term : List Token} (leads : Leading leading) (derives : Derives .term term) :
    Derives .expression (leading ++ term) := by
  cases leads with
  | nothing => exact .term derives
  | operation derivesLeft op =>
      rw [List.append_assoc]
      exact .operation op derivesLeft derives

theorem Progress.operand
    {depth : Nat} {before leading term : List Token}
    (opening : Opening depth before) (leads : Leading leading) (derives : Derives .term term) :
    Progress depth true (before ++ leading ++ term) := by
  rw [List.append_assoc]
  exact .ended opening (leads.derives_append derives)

/-- One more token that starts an operand where one is awaited, and only there, and
closes no more than what is open. -/
theorem Progress.step
    {depth : Nat} {ended : Bool} {tokens : List Token} {token : Token}
    (progress : Progress depth ended tokens) (suits : token.startsOperand = !ended)
    (closes : token = .rightParen → 0 < depth) :
    ∃ after, Progress after token.endsOperand (tokens ++ [token]) ∧
      after + closings [token] = depth + openings [token] := by
  cases progress with
  | @awaiting before leading opening leads =>
      cases token with
      | leftParen =>
          refine ⟨depth + 1, ?_, rfl⟩
          have deeper : Progress (depth + 1) false (before ++ leading ++ [.leftParen] ++ []) :=
            .awaiting (.paren opening leads) .nothing
          rwa [List.append_nil] at deeper
      | number value => exact ⟨depth, .operand opening leads (.number value), rfl⟩
      | name text => exact ⟨depth, .operand opening leads (.name text), rfl⟩
      | rightParen => cases suits
      | operator op => cases suits
  | @ended before inner opening derives =>
      cases token with
      | operator op =>
          refine ⟨depth, ?_, rfl⟩
          rw [List.append_assoc]
          exact .awaiting opening (.operation derives op)
      | rightParen =>
          cases opening with
          | outermost => exact absurd (closes rfl) (Nat.lt_irrefl 0)
          | @paren shallower outer leading opening leads =>
              refine ⟨shallower, ?_, rfl⟩
              have closed := Progress.operand opening leads (.parens derives)
              simpa [endsOperand] using closed
      | leftParen => cases suits
      | number value => cases suits
      | name text => cases suits

theorem startsOperand_of_fitting_concat
    {tokens : List Token} {token : Token} (fits : Fitting (tokens ++ [token]))
    (starts : ∀ first ∈ (tokens ++ [token]).head?, first.startsOperand = true) :
    token.startsOperand = !(tokens.getLast?.any endsOperand) := by
  cases last : tokens.getLast? with
  | none =>
      obtain rfl : tokens = [] := List.getLast?_eq_none_iff.1 last
      simpa using starts token rfl
  | some previous =>
      have meets := (fitting_concat_iff.1 fits).2.1 previous last
      simpa [mayFollow, Bool.eq_not, ne_comm] using meets

/-- Fitting tokens that start well never leave the grammar, by induction from the last
token. -/
theorem progress_of_fitting
    {tokens : List Token} (fits : Fitting tokens)
    (starts : ∀ first ∈ tokens.head?, first.startsOperand = true) :
    ∃ depth, Progress depth (tokens.getLast?.any endsOperand) tokens ∧
      depth + closings tokens = openings tokens := by
  induction tokens using List.reverseRecOn with
  | nil => exact ⟨0, .awaiting .outermost .nothing, rfl⟩
  | append_singleton tokens token inductionHypothesis =>
      obtain ⟨fitsBefore, _, closes⟩ := fitting_concat_iff.1 fits
      obtain ⟨depth, progress, counted⟩ := inductionHypothesis fitsBefore fun first isFirst =>
        starts first (List.mem_head?_append_of_mem_head? isFirst)
      have suitsProgress := startsOperand_of_fitting_concat fits starts
      obtain ⟨after, progressAfter, countedToken⟩ :=
        progress.step suitsProgress fun closing => by
          have room := closes closing
          omega
      refine ⟨after, ?_, ?_⟩
      · simpa using progressAfter
      · simp only [closings_append, openings_append]
        omega

/-- The grammar derives exactly the tokens that pass all checks. -/
theorem derives_expression_iff {tokens : List Token} :
    Derives .expression tokens ↔ Complete tokens := by
  constructor
  · exact complete_of_derives
  · intro complete
    obtain ⟨first, isFirst, starts⟩ := complete.starts
    obtain ⟨last, isLast, ends⟩ := complete.ends
    obtain ⟨depth, progress, counted⟩ := progress_of_fitting complete.fits fun other isOther =>
      Option.mem_unique isFirst isOther ▸ starts
    have balanced := complete.balanced
    obtain rfl : depth = 0 := by omega
    rw [Option.mem_def.1 isLast, Option.any_some, ends] at progress
    cases progress with
    | ended opening derives =>
        cases opening with
        | outermost => exact derives

end Token

namespace Formula

theorem Checked.finish_eq_ok_iff {checked : Checked} {formula : Formula} :
    checked.finish = .ok formula ↔
      checked.opened = checked.closed ∧
        checked.accepted.reverse.head?.any Token.startsOperand = true ∧
          checked.accepted.reverse.getLast?.any Token.endsOperand = true ∧
            formula = ⟨checked.accepted.reverse⟩ := by
  rw [@eq_comm _ formula]
  unfold finish
  dsimp only
  split
  · next unbalanced => simp only [unbalanced, reduceCtorEq, false_and]
  · next balanced =>
      rw [Classical.not_not] at balanced
      split
      · next badStart => simp only [badStart, reduceCtorEq, false_and, and_false]
      · next goodStart =>
          rw [Bool.not_eq_false] at goodStart
          split
          · next badEnd => simp only [badEnd, reduceCtorEq, false_and, and_false]
          · next goodEnd =>
              rw [Bool.not_eq_false] at goodEnd
              simp only [balanced, goodStart, goodEnd, Except.ok.injEq, true_and]

private theorem Checked.finish_passed_eq_ok_iff
    {rules : NameRules} {tokens : List Token} (fits : Fitting tokens) {formula : Formula} :
    (passed rules tokens).finish = .ok formula ↔
      Complete tokens ∧ formula = ⟨tokens.map (Token.renamed rules)⟩ := by
  rw [finish_eq_ok_iff]
  simp only [passed, List.reverse_reverse, List.head?_map, List.getLast?_map, Option.any_map,
    startsOperand_renamed, endsOperand_renamed, Option.any_eq_true]
  constructor
  · rintro ⟨balanced, starts, ends, same⟩
    exact ⟨⟨fits, balanced, starts, ends⟩, same⟩
  · rintro ⟨complete, same⟩
    exact ⟨complete.balanced, complete.starts, complete.ends, same⟩

theorem ofTokens_eq_ok_iff
    {rules : NameRules} {tokens : List Token} {formula : Formula} :
    ofTokens rules tokens = .ok formula ↔
      Derives .expression tokens ∧
        (∀ token ∈ tokens, (token.renamed rules).Allowed rules) ∧
          formula = ⟨tokens.map (Token.renamed rules)⟩ := by
  rw [derives_expression_iff]
  unfold ofTokens
  split
  · next empty =>
      subst empty
      have incomplete : ¬ Complete [] := fun complete => by
        obtain ⟨first, isFirst, _⟩ := complete.starts
        cases isFirst
      simp [incomplete]
  · refine bind_eq_ok.trans ?_
    constructor
    · rintro ⟨checked, passedAll, finished⟩
      obtain ⟨fits, allowed, rfl⟩ := Checked.foldlM_push_eq_ok_iff.1 passedAll
      obtain ⟨complete, same⟩ := (Checked.finish_passed_eq_ok_iff fits).1 finished
      exact ⟨complete, allowed, same⟩
    · rintro ⟨complete, allowed, same⟩
      exact ⟨_, Checked.foldlM_push_eq_ok_iff.2 ⟨complete.fits, allowed, rfl⟩,
        (Checked.finish_passed_eq_ok_iff complete.fits).2 ⟨complete, same⟩⟩

/-- A text is a formula exactly when it has tokens that the grammar derives, and the
canonical forms of all names among them are well-formed and accepted. The formula then
has these tokens, with each name in its canonical form. -/
theorem ofText_eq_ok_iff_derives (rules : NameRules) (text : String) (formula : Formula) :
    ofText rules text = .ok formula ↔
      ∃ tokens, Token.scan text = .ok tokens ∧ Derives .expression tokens ∧
        (∀ written, Token.name written ∈ tokens →
          isName (rules.canonical written) = true ∧
            rules.accepts (rules.canonical written) = true) ∧
        formula.tokens = tokens.map (Token.renamed rules) := by
  have named : ∀ tokens : List Token,
      (∀ token ∈ tokens, (token.renamed rules).Allowed rules) ↔
        ∀ written, Token.name written ∈ tokens →
          isName (rules.canonical written) = true ∧
            rules.accepts (rules.canonical written) = true := by
    intro tokens
    simp only [Token.allowed_renamed_iff]
    constructor
    · intro allowed written listed
      exact allowed _ listed written rfl
    · intro allowed token listed written same
      exact allowed written (same ▸ listed)
  have sameTokens : ∀ tokens, formula = ⟨tokens⟩ ↔ formula.tokens = tokens :=
    fun tokens => ⟨congrArg Formula.tokens, fun same => same ▸ rfl⟩
  refine bind_eq_ok.trans ?_
  simp only [ofTokens_eq_ok_iff, named, sameTokens]

end Formula

end Reckon
