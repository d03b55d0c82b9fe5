import Reckon.Proofs.FormulaText

/-!
Where a text stops being the beginning of a formula. Tokens are checked one by one, each
against its neighbour, the count of parentheses and the rules for names; still all tokens
before the one that is reported can be completed to a formula, and with this one they no
longer can. If no token is reported, then the tokens only want more of them.
-/

namespace Reckon

namespace Token

/-! ## Completing what has been read -/

theorem Opening.derives_append {depth : Nat} {before : List Token} (opening : Opening depth before)
    {inner : List Token} (derives : Derives .expression inner) :
    Derives .expression (before ++ inner ++ List.replicate depth .rightParen) := by
  induction opening generalizing inner with
  | outermost => simpa using derives
  | paren opening leads inductionHypothesis =>
      have closed := inductionHypothesis (leads.derives_append (.parens derives))
      simpa [List.replicate_succ] using closed

/-- What completes the tokens: an operand, if one is awaited, and closing parentheses. -/
def completion (depth : Nat) (ended : Bool) : List Token :=
  (if ended then [] else [.number 1]) ++ List.replicate depth .rightParen

theorem Progress.derives_append {depth : Nat} {ended : Bool} {tokens : List Token}
    (progress : Progress depth ended tokens) :
    Derives .expression (tokens ++ completion depth ended) := by
  cases progress with
  | awaiting opening leads =>
      have closed := opening.derives_append (leads.derives_append (.number 1))
      simpa [completion] using closed
  | ended opening derives => exact opening.derives_append derives

private theorem mem_completion {depth : Nat} {ended : Bool} {token : Token}
    (listed : token ∈ completion depth ended) : token = .number 1 ∨ token = .rightParen := by
  rcases List.mem_append.1 listed with operand | closing
  · cases ended with
    | true => cases operand
    | false => exact Or.inl (List.mem_singleton.1 operand)
  · exact Or.inr (List.eq_of_mem_replicate closing)

end Token

namespace Formula

open Token

/-! ## Beginnings of formulas -/

/-- The tokens are the first ones of a text that is a formula. -/
def Begins (rules : NameRules) (tokens : List Token) : Prop :=
  ∃ text more formula, Token.scan text = .ok (tokens ++ more) ∧ ofText rules text = .ok formula

/-- Whatever tokens come next, there will be no formula. -/
def Hopeless (rules : NameRules) (tokens : List Token) : Prop :=
  ∀ more formula, ofTokens rules (tokens ++ more) ≠ .ok formula

private theorem begins_of_fitting {rules : NameRules} {tokens : List Token} (fits : Fitting tokens)
    (starts : ∀ first ∈ tokens.head?, first.startsOperand = true)
    (readable : ∀ token ∈ tokens, token.Readable)
    (allowed : ∀ token ∈ tokens, (token.renamed rules).Allowed rules) : Begins rules tokens := by
  obtain ⟨depth, progress, _⟩ := progress_of_fitting fits starts
  have derives := progress.derives_append
  have readableAll : ∀ token ∈ tokens ++ completion depth (tokens.getLast?.any endsOperand),
      token.Readable := by
    refine List.forall_mem_append.2 ⟨readable, fun token listed => ?_⟩
    rcases mem_completion listed with rfl | rfl
    · exact ⟨by decide +kernel, by decide +kernel⟩
    · trivial
  have allowedAll : ∀ token ∈ tokens ++ completion depth (tokens.getLast?.any endsOperand),
      (token.renamed rules).Allowed rules := by
    refine List.forall_mem_append.2 ⟨allowed, fun token listed => ?_⟩
    rcases mem_completion listed with rfl | rfl <;> simp [renamed, Allowed]
  have scanned := scan_join_text readableAll (complete_of_derives derives).fits.adjacent
  have formed := ofTokens_eq_ok_iff.2 ⟨derives, allowedAll, rfl⟩
  exact ⟨_, _, _, scanned, bind_eq_ok.2 ⟨_, scanned, formed⟩⟩

/-! ## Errors on the way -/

def Blames (rules : NameRules) (position : Nat) (token : Token) : FormatError → Prop
  | .unexpectedToken text reported => text = token.text ∧ reported = position
  | .unmatchedClose reported => token = .rightParen ∧ reported = position
  | .invalidVariable written canonical reported =>
      token = .name written ∧ canonical = rules.canonical written ∧ reported = position
  | _ => False

private theorem Checked.blames_of_push_eq_error {rules : NameRules} {checked : Checked}
    {token : Token}
    {error : FormatError} (failed : checked.push rules token = .error error) :
    Blames rules (checked.count + 1) token error := by
  unfold push at failed
  dsimp only at failed
  split at failed
  · injection failed with same
    subst same
    exact ⟨rfl, rfl⟩
  · split at failed
    · next unmatched =>
        injection failed with same
        subst same
        exact ⟨unmatched.1, rfl⟩
    · rw [map_eq_error] at failed
      cases token with
      | name written =>
          unfold canonical at failed
          dsimp only at failed
          split at failed
          · cases failed
          · injection failed with same
            subst same
            exact ⟨rfl, rfl, rfl⟩
      | leftParen => cases failed
      | rightParen => cases failed
      | operator op => cases failed
      | number value => cases failed

/-- The tokens before the first one that fails have passed. -/
theorem Checked.exists_push_eq_error {rules : NameRules} {tokens : List Token}
    {error : FormatError} (failed : tokens.foldlM (push rules) start = .error error) :
    ∃ initial token rest, tokens = initial ++ token :: rest ∧
      initial.foldlM (push rules) start = .ok (passed rules initial) ∧
        (passed rules initial).push rules token = .error error := by
  induction tokens using List.reverseRecOn with
  | nil => cases failed
  | append_singleton tokens token inductionHypothesis =>
      cases before : tokens.foldlM (push rules) start with
      | error cause =>
          rw [List.foldlM_append, before] at failed
          obtain ⟨initial, offending, rest, rfl, passedInitial, pushed⟩ :=
            inductionHypothesis (before.trans failed)
          exact ⟨initial, offending, rest ++ [token], by simp, passedInitial, pushed⟩
      | ok checked =>
          obtain ⟨_, _, rfl⟩ := foldlM_push_eq_ok_iff.1 before
          rw [List.foldlM_append, before] at failed
          have pushed : (passed rules tokens).push rules token >>= pure = .error error := failed
          rw [bind_pure] at pushed
          exact ⟨tokens, token, [], rfl, before, pushed⟩

private theorem hopeless_of_push_eq_error {rules : NameRules} {tokens : List Token} {token : Token}
    {error : FormatError}
    (passedTokens : tokens.foldlM (Checked.push rules) .start = .ok (.passed rules tokens))
    (failed : (Checked.passed rules tokens).push rules token = .error error) :
    Hopeless rules (tokens ++ [token]) := by
  intro more formula formed
  obtain ⟨derives, allowed, _⟩ := ofTokens_eq_ok_iff.1 formed
  have fits := (complete_of_derives derives).fits.of_append
  have allowedTokens : ∀ other ∈ tokens ++ [token], (other.renamed rules).Allowed rules :=
    fun other listed => allowed other (List.mem_append_left more listed)
  have passedAll := Checked.foldlM_push_eq_ok_iff.2 ⟨fits, allowedTokens, rfl⟩
  rw [List.foldlM_append, passedTokens] at passedAll
  have pushed : (Checked.passed rules tokens).push rules token >>= pure =
    .ok (.passed rules (tokens ++ [token])) := passedAll
  rw [bind_pure, failed] at pushed
  cases pushed

/-! ## Errors at the end -/

private theorem Checked.finish_passed_eq_error {rules : NameRules} {tokens : List Token}
    (fits : Fitting tokens) (starts : ∃ first ∈ tokens.head?, first.startsOperand = true)
    {error : FormatError} (failed : (passed rules tokens).finish = .error error) :
    error = .invalidEnd ∨
      error = .unbalancedParens (openings tokens) (closings tokens) ∧
        closings tokens < openings tokens := by
  have started : (passed rules tokens).accepted.reverse.head?.any startsOperand = true := by
    simp only [passed, List.reverse_reverse, List.head?_map, Option.any_map,
      startsOperand_renamed, Option.any_eq_true]
    exact starts
  unfold finish at failed
  dsimp only at failed
  split at failed
  · next unbalanced =>
      injection failed with same
      have nested := fits.nested tokens (List.prefix_refl tokens)
      exact Or.inr ⟨same.symm, Nat.lt_of_le_of_ne nested fun balanced => unbalanced balanced.symm⟩
  · split at failed
    · next badStart =>
        rw [started] at badStart
        cases badStart
    · split at failed
      · injection failed with same
        exact Or.inl same.symm
      · cases failed

/-- For tokens the first of which starts an operand, an error is about the first token that
leaves no hope for a formula, while the tokens before it are the beginning of one; or all
tokens are the beginning of a formula and are none yet, as an operand is missing or more
parentheses are opened than closed. -/
theorem first_offending_of_ofText_eq_error (rules : NameRules) (text : String)
    (tokens : List Token) (error : FormatError) (scanned : Token.scan text = .ok tokens)
    (starts : ∃ first ∈ tokens.head?, first.startsOperand = true)
    (failed : ofText rules text = .error error) :
    (∃ initial token rest, tokens = initial ++ token :: rest ∧
      Blames rules (initial.length + 1) token error ∧
        Begins rules initial ∧ Hopeless rules (initial ++ [token])) ∨
    Begins rules tokens ∧ (∀ formula, ofTokens rules tokens ≠ .ok formula) ∧
      (error = .invalidEnd ∨
        error = .unbalancedParens (openings tokens) (closings tokens) ∧
          closings tokens < openings tokens) := by
  have readable := readable_of_scan scanned
  have failedTokens : ofTokens rules tokens = .error error := by
    rw [ofText, scanned] at failed
    exact failed
  have notEmpty : tokens ≠ [] := by
    rintro rfl
    obtain ⟨first, isFirst, _⟩ := starts
    cases isFirst
  have starting : ∀ first ∈ tokens.head?, first.startsOperand = true := by
    intro first isFirst
    obtain ⟨other, isOther, startsOther⟩ := starts
    rwa [Option.mem_unique isFirst isOther]
  have failedChecks :
      (tokens.foldlM (Checked.push rules) .start).bind Checked.finish = .error error := by
    rwa [ofTokens, if_neg notEmpty] at failedTokens
  cases checks : tokens.foldlM (Checked.push rules) .start with
  | error cause =>
      rw [checks] at failedChecks
      obtain rfl : cause = error := by injection failedChecks
      obtain ⟨initial, token, rest, rfl, passedInitial, pushed⟩ :=
        Checked.exists_push_eq_error checks
      obtain ⟨fits, allowed, _⟩ := Checked.foldlM_push_eq_ok_iff.1 passedInitial
      refine Or.inl ⟨initial, token, rest, rfl, ?_, ?_, ?_⟩
      · exact Checked.blames_of_push_eq_error pushed
      · apply begins_of_fitting fits _ (fun other listed =>
          readable other (List.mem_append_left _ listed)) allowed
        intro first isFirst
        exact starting first (List.mem_head?_append_of_mem_head? isFirst)
      · exact hopeless_of_push_eq_error passedInitial pushed
  | ok final =>
      obtain ⟨fits, allowed, rfl⟩ := Checked.foldlM_push_eq_ok_iff.1 checks
      rw [checks] at failedChecks
      refine Or.inr ⟨begins_of_fitting fits starting readable allowed, ?_, ?_⟩
      · intro formula formed
        rw [failedTokens] at formed
        cases formed
      · exact Checked.finish_passed_eq_error fits starts failedChecks

/-- The second closing parenthesis stands where an operand is awaited; the name after it,
which the rules refuse, is not what is reported. -/
theorem first_offending_of_ofText_eq_error_of_missing_operand :
    let rules : NameRules := ⟨Text.upper, fun name => name ≠ "C3"⟩
    let initial : List Token :=
      [.leftParen, .name "a1", .operator .add, .number 1, .rightParen, .operator .mul]
    Token.scan "(a1 + 1) * ) / c3" =
        .ok (initial ++ [.rightParen, .operator .div, .name "c3"]) ∧
      ofText rules "(a1 + 1) * ) / c3" = .error (.unexpectedToken ")" 7) ∧
      Begins rules initial ∧ Hopeless rules (initial ++ [.rightParen]) := by
  intro rules initial
  have scanned : Token.scan "(a1 + 1) * ) / c3" =
      .ok (initial ++ [.rightParen, .operator .div, .name "c3"]) := by
    rw [← toOption_eq_some]
    decide +kernel
  have failed : ofText rules "(a1 + 1) * ) / c3" = .error (.unexpectedToken ")" 7) := by
    rw [ofText, scanned]
    decide +kernel
  rcases first_offending_of_ofText_eq_error rules _ _ _ scanned ⟨.leftParen, rfl, rfl⟩ failed with
    ⟨before, token, rest, split, blamed, begins, hopeless⟩ | ⟨_, _, other⟩
  · have length : initial.length = before.length := Nat.succ.inj blamed.2
    obtain ⟨rfl, later⟩ := List.append_inj split length
    obtain rfl := List.head_eq_of_cons_eq later
    exact ⟨scanned, failed, begins, hopeless⟩
  · rcases other with different | ⟨different, _⟩
    · cases different
    · cases different

end Formula

end Reckon
