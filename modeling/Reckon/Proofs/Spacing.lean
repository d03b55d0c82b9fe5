import Reckon.Proofs.Grammar
import Reckon.Proofs.Lexemes
import Reckon.Proofs.Trimming
import Reckon.Text.Casing

/-!
Blanks between lexemes. To scanning alone they matter: two numbers become one when the
blank between them is left out, and so do a number and a name that looks like its exponent.
But after a name or a number in a formula there is an operator or a closing parenthesis,
with which neither of them goes on. So all spacings of the lexemes of a formula are read as
this formula.
-/

namespace Reckon

namespace Token

/-! ## Where lexemes end -/

/-- Neither a name nor a number goes on with the text. -/
def Apart (rest : List Char) : Prop :=
  ∀ next ∈ rest.head?, isNamePart next = false ∧ next ≠ '.'

theorem Apart.ends {rest : List Char} (apart : Apart rest) : Number.Numeral.Ends rest := by
  intro next isNext
  obtain ⟨notPart, noPoint⟩ := apart next isNext
  refine ⟨?_, noPoint, ?_, ?_⟩
  · rw [Bool.eq_false_iff]
    intro digit
    rw [isNamePart_of_isDigit digit] at notPart
    cases notPart
  · rintro rfl
    cases notPart
  · rintro rfl
    cases notPart

private theorem apart_of_blank {blank : Char} (isBlank : Text.isBlank blank = true)
    (rest : List Char) :
    Apart (blank :: rest) := by
  intro next isNext
  obtain rfl : blank = next := by simpa using isNext
  refine ⟨Bool.eq_false_iff.2 fun part => ?_, ?_⟩
  · rw [isBlank_of_isNamePart part] at isBlank
    cases isBlank
  · rintro rfl
    exact absurd isBlank (by decide)

private theorem apart_of_mark {mark : Char} (listed : mark ∈ "()+-*/".toList) (rest : List Char) :
    Apart (mark :: rest) := by
  intro next isNext
  obtain rfl : mark = next := by simpa using isNext
  refine ⟨Bool.eq_false_iff.2 fun part => not_mem_marks_of_isNamePart part listed, ?_⟩
  exact fun point => not_numeral_of_mark listed (Or.inr point)

theorem Denotes.apart {lexeme : List Char} {token : Token} (denotes : Denotes lexeme token)
    (follows : token.startsOperand = false) (rest : List Char) : Apart (lexeme ++ rest) := by
  cases denotes with
  | mark bare =>
      obtain ⟨mark, spelled, listed, _⟩ := exists_mark_of_bare bare
      rw [spelled]
      exact apart_of_mark listed rest
  | name named => cases follows
  | numeral formed reads finite => cases follows

theorem Denotes.longest {lexeme rest : List Char} {token : Token} (denotes : Denotes lexeme token)
    (apart : token.isOperand = true → Apart rest) : Longest lexeme (lexeme ++ rest) := by
  cases denotes with
  | mark bare =>
      obtain ⟨mark, spelled, listed, _⟩ := exists_mark_of_bare bare
      rw [spelled]
      exact longest_mark listed rest
  | name named => exact longest_name named fun next isNext => (apart rfl next isNext).1
  | numeral formed reads finite => exact longest_numeral (formed.scan_append (apart rfl).ends)

/-! ## Spacings -/

/-- The text is the lexemes in their order, with blanks or nothing around each of them. -/
inductive Spaced : List (List Char) → List Char → Prop where
  | nothing {blanks : List Char}
      (blank : ∀ character ∈ blanks, Text.isBlank character = true) : Spaced [] blanks
  | lexeme {blanks lexeme after : List Char} {lexemes : List (List Char)}
      (blank : ∀ character ∈ blanks, Text.isBlank character = true)
      (later : Spaced lexemes after) : Spaced (lexeme :: lexemes) (blanks ++ (lexeme ++ after))

theorem spaced_flatten (lexemes : List (List Char)) : Spaced lexemes lexemes.flatten := by
  induction lexemes with
  | nil => exact .nothing (by simp)
  | cons lexeme later inductionHypothesis =>
      exact @Spaced.lexeme [] lexeme later.flatten later (by simp) inductionHypothesis

theorem Munches.spaced {text : List Char} {lexemes : List (List Char)}
    (munches : Munches text lexemes []) : Spaced lexemes text := by
  generalize nothing : ([] : List Char) = rest at munches
  induction munches with
  | stop blank solid =>
      subst nothing
      rw [List.append_nil]
      exact .nothing blank
  | lexeme blank longest later inductionHypothesis =>
      exact .lexeme blank (inductionHypothesis nothing)

theorem Spaced.apart {lexemes : List (List Char)} {text : List Char} {tokens : List Token}
    (spaced : Spaced lexemes text) (denote : List.Forall₂ Denotes lexemes tokens)
    (follows : ∀ next ∈ tokens.head?, next.startsOperand = false) : Apart text := by
  have front : ∀ blanks rest : List Char,
      (∀ character ∈ blanks, Text.isBlank character = true) → Apart rest →
        Apart (blanks ++ rest) := by
    intro blanks rest blank apart
    cases blanks with
    | nil => exact apart
    | cons first others => exact apart_of_blank (blank first List.mem_cons_self) (others ++ rest)
  cases spaced with
  | nothing blank =>
      have apart := front text [] blank (by simp [Apart])
      rwa [List.append_nil] at apart
  | lexeme blank later =>
      obtain ⟨token, others, denotes, _, rfl⟩ := List.forall₂_cons_left_iff.1 denote
      exact front _ _ blank (denotes.apart (follows token rfl) _)

/-- Lexemes whose tokens may follow one another are found in all spacings. -/
theorem Spaced.munches {lexemes : List (List Char)} {text : List Char} {tokens : List Token}
    (spaced : Spaced lexemes text) (denote : List.Forall₂ Denotes lexemes tokens)
    (adjacent : tokens.IsChain fun previous next => previous.mayFollow next = true) :
    Munches text lexemes [] := by
  induction spaced generalizing tokens with
  | nothing blank =>
      have munches := @Munches.stop _ [] blank (by simp)
      rwa [List.append_nil] at munches
  | lexeme blank later inductionHypothesis =>
      obtain ⟨token, others, denotes, denoteLater, rfl⟩ := List.forall₂_cons_left_iff.1 denote
      refine .lexeme blank (denotes.longest fun operand => ?_)
        (inductionHypothesis denoteLater adjacent.tail)
      refine later.apart denoteLater fun next isNext => ?_
      have suits : token.mayFollow next = true :=
        (List.isChain_cons.1 adjacent).1 next isNext
      have ends : token.endsOperand = true := by
        cases token <;> first | rfl | cases operand
      simpa [mayFollow, ends] using suits

private theorem Spaced.filter_solid {lexemes : List (List Char)} {text : List Char}
    (spaced : Spaced lexemes text)
    (solid : ∀ lexeme ∈ lexemes, ∀ character ∈ lexeme, Text.isBlank character = false) :
    (text.filter fun character => !Text.isBlank character) = lexemes.flatten := by
  have dropped : ∀ blanks : List Char,
      (∀ character ∈ blanks, Text.isBlank character = true) →
        (blanks.filter fun character => !Text.isBlank character) = [] := by
    intro blanks blank
    rw [List.filter_eq_nil_iff]
    intro character listed
    simp [blank character listed]
  induction spaced with
  | nothing blank => exact dropped _ blank
  | @lexeme blanks lexeme after lexemes blank later inductionHypothesis =>
      obtain ⟨solidFirst, solidLater⟩ := List.forall_mem_cons.1 solid
      have kept : (lexeme.filter fun character => !Text.isBlank character) = lexeme := by
        rw [List.filter_eq_self]
        intro character listed
        simp [solidFirst character listed]
      rw [List.filter_append, List.filter_append, dropped blanks blank, kept,
        inductionHypothesis solidLater]
      rfl

/-! ## The lexemes of a text -/

theorem Munches.isLexeme {text rest : List Char} {lexemes : List (List Char)}
    (munches : Munches text lexemes rest) : ∀ lexeme ∈ lexemes, Lexeme lexeme := by
  induction munches with
  | stop blank solid => simp
  | lexeme blank longest later inductionHypothesis =>
      exact List.forall_mem_cons.2 ⟨longest.isLexeme, inductionHypothesis⟩

private theorem Longest.solid_head {lexeme text : List Char} (longest : Longest lexeme text) :
    ∀ next ∈ text.head?, Text.isBlank next = false := by
  obtain ⟨first, others, rfl⟩ := List.exists_cons_of_ne_nil longest.isLexeme.ne_nil
  obtain ⟨rest, rfl⟩ := longest.starts
  intro next isNext
  obtain rfl : first = next := by simpa using isNext
  exact longest.isLexeme.solid List.mem_cons_self

theorem Longest.eq {lexeme other text : List Char} (longest : Longest lexeme text)
    (otherLongest : Longest other text) : lexeme = other := by
  have shorter := otherLongest.longest lexeme longest.isLexeme longest.starts
  have longer := longest.longest other otherLongest.isLexeme otherLongest.starts
  exact (List.prefix_of_prefix_length_le longest.starts otherLongest.starts shorter).eq_of_length_le
    longer

private theorem Munches.stop_or_lexeme {text rest : List Char} {lexemes : List (List Char)}
    (munches : Munches text lexemes rest) :
    lexemes = [] ∧ Text.dropBlank text = rest ∨
      ∃ lexeme after later, lexemes = lexeme :: later ∧ Text.dropBlank text = lexeme ++ after ∧
        Longest lexeme (lexeme ++ after) ∧ Munches after later rest := by
  cases munches with
  | stop blank solid => exact Or.inl ⟨rfl, Text.dropBlank_append blank solid⟩
  | lexeme blank longest later =>
      exact Or.inr ⟨_, _, _, rfl, Text.dropBlank_append blank longest.solid_head, longest, later⟩

/-- A text has only one split into longest lexemes. -/
theorem Munches.unique {text : List Char} {lexemes others : List (List Char)}
    (munches : Munches text lexemes []) (otherMunches : Munches text others []) :
    others = lexemes := by
  generalize nothing : ([] : List Char) = rest at munches
  induction munches generalizing others with
  | stop blank solid =>
      rcases otherMunches.stop_or_lexeme with ⟨rfl, _⟩ | ⟨lexeme, after, _, _, split, longest, _⟩
      · rfl
      · rw [Text.dropBlank_append blank solid, ← nothing] at split
        exact absurd (List.append_eq_nil_iff.1 split.symm).1 longest.isLexeme.ne_nil
  | lexeme blank longest later inductionHypothesis =>
      have dropped := Text.dropBlank_append blank longest.solid_head
      rcases otherMunches.stop_or_lexeme with
        ⟨_, split⟩ | ⟨other, otherAfter, otherLater, rfl, split, otherLongest, munchesLater⟩
      · rw [dropped] at split
        exact absurd (List.append_eq_nil_iff.1 split).1 longest.isLexeme.ne_nil
      · rw [dropped] at split
        rw [← split] at otherLongest
        obtain rfl := longest.eq otherLongest
        obtain rfl := List.append_cancel_left split
        rw [inductionHypothesis munchesLater nothing]

end Token

/-- A text that is a formula has one split into lexemes, and every text of these lexemes in
this order, with blanks or without them before, between and after them, is the same formula;
the text without all of its blanks is one of these. -/
theorem Formula.ofText_eq_ok_of_spaced
    (rules : NameRules) (text : String) (formula : Formula)
    (read : Formula.ofText rules text = .ok formula) :
    ∃ lexemes, Token.Munches text.toList lexemes [] ∧
      (∀ others, Token.Munches text.toList others [] → others = lexemes) ∧
      (∀ other : String, Token.Spaced lexemes other.toList →
        Formula.ofText rules other = .ok formula) ∧
      Formula.ofText rules
        (String.ofList (text.toList.filter fun character => !Text.isBlank character)) =
          .ok formula := by
  obtain ⟨tokens, scanned, derives, allowed, renamed⟩ :=
    (ofText_eq_ok_iff_derives rules text formula).1 read
  obtain ⟨lexemes, munches, denote⟩ := Token.exists_munches_of_scan scanned
  have adjacent := (Token.complete_of_derives derives).fits.adjacent
  have respaced : ∀ other : String, Token.Spaced lexemes other.toList →
      Formula.ofText rules other = .ok formula := by
    intro other spaced
    have scannedOther := Token.scan_of_munches (spaced.munches denote adjacent) denote
    exact (ofText_eq_ok_iff_derives rules other formula).2
      ⟨tokens, scannedOther, derives, allowed, renamed⟩
  have solid : ∀ lexeme ∈ lexemes, ∀ character ∈ lexeme, Text.isBlank character = false :=
    fun lexeme listed character => (munches.isLexeme lexeme listed).solid
  refine ⟨lexemes, munches, fun others => munches.unique, respaced, respaced _ ?_⟩
  rw [String.toList_ofList, munches.spaced.filter_solid solid]
  exact Token.spaced_flatten lexemes

/-- Around the lexemes are spaces, a line feed and an ideographic space. -/
theorem Formula.ofText_eq_ok_of_spaced_of_product :
    let upper : NameRules := ⟨Text.upper, fun _ => true⟩
    let formula : Formula :=
      ⟨[.number 2, .operator .mul, .leftParen, .name "B1", .operator .add, .number 10,
        .rightParen]⟩
    Formula.ofText upper " 2 *\n(b1\u3000+ 1e1)" = .ok formula ∧
      Formula.ofText upper "2*(b1+1e1)" = .ok formula := by
  intro upper formula
  have read : Formula.ofText upper " 2 *\n(b1\u3000+ 1e1)" = .ok formula := by
    rw [← toOption_eq_some]
    decide +kernel
  obtain ⟨_, _, _, _, joined⟩ :=
    Formula.ofText_eq_ok_of_spaced upper " 2 *\n(b1\u3000+ 1e1)" formula read
  have withoutBlanks :
      String.ofList (" 2 *\n(b1\u3000+ 1e1)".toList.filter fun character =>
        !Text.isBlank character) = "2*(b1+1e1)" := by decide +kernel
  rw [withoutBlanks] at joined
  exact ⟨read, joined⟩

end Reckon
