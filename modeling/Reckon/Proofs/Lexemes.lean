import Mathlib.Data.List.Forall2
import Reckon.Formula.Scan
import Reckon.Proofs.Contents
import Reckon.Proofs.NumberText

/-!
Lexemes: the texts that tokens are written with. Scanning decides by the first character
what kind of token may start, and then character by character how far it goes. It always
takes the longest lexeme that starts where it stands, and it stops exactly where none
starts, or where a numeral is too large for a double.
-/

namespace Reckon

/-! ## Characters -/

private theorem isBlank_of_visible {character : Char} (above : 33 ≤ character.toNat)
    (below : character.toNat ≤ 126) : Text.isBlank character = false := by
  rw [Bool.eq_false_iff, Text.isBlank, Ne, Text.CharSet.contains_iff]
  intro blank
  obtain ⟨range, listed, lower, upper⟩ := blank
  simp only [Text.blankSet, List.mem_cons, List.not_mem_nil, or_false] at listed
  rcases listed with rfl | rfl | rfl | rfl | rfl | rfl | rfl | rfl | rfl | rfl <;>
    (simp only at lower upper; omega)

theorem bounds_of_isNamePart {character : Char} (part : isNamePart character = true) :
    48 ≤ character.toNat ∧ character.toNat ≤ 122 := by
  simp only [isNamePart, Char.isAlphanum, Char.isAlpha, Char.isUpper, Char.isLower, Char.isDigit,
    Bool.or_eq_true, Bool.and_eq_true, decide_eq_true_eq, ge_iff_le, UInt32.le_iff_toNat_le] at part
  change (((65 ≤ character.toNat ∧ character.toNat ≤ 90) ∨
    (97 ≤ character.toNat ∧ character.toNat ≤ 122)) ∨
      (48 ≤ character.toNat ∧ character.toNat ≤ 57)) ∨ character = '_' at part
  rcases part with ((upper | lower) | digit) | underscore
  · omega
  · omega
  · omega
  · rw [underscore]
    decide

private theorem isNamePart_of_isNameStart {character : Char}
    (start : isNameStart character = true) :
    isNamePart character = true := by
  simp only [isNameStart, isNamePart, Char.isAlphanum, Bool.or_eq_true] at start ⊢
  rcases start with letter | underscore
  · exact Or.inl (Or.inl letter)
  · exact Or.inr underscore

theorem isNamePart_of_isDigit {character : Char} (digit : Number.isDigit character = true) :
    isNamePart character = true := by
  rw [Number.isDigit_eq_isDigit] at digit
  simp [isNamePart, Char.isAlphanum, digit]

private theorem isNameStart_of_isDigit {character : Char}
    (digit : Number.isDigit character = true) :
    isNameStart character = false := by
  rw [Number.isDigit_eq_isDigit] at digit
  rw [Bool.eq_false_iff]
  intro start
  simp only [isNameStart, Char.isAlpha, Char.isUpper, Char.isLower, Char.isDigit,
    Bool.or_eq_true, Bool.and_eq_true, decide_eq_true_eq, ge_iff_le,
    UInt32.le_iff_toNat_le] at start digit
  change ((65 ≤ character.toNat ∧ character.toNat ≤ 90) ∨
    (97 ≤ character.toNat ∧ character.toNat ≤ 122)) ∨ character = '_' at start
  change 48 ≤ character.toNat ∧ character.toNat ≤ 57 at digit
  rcases start with (upper | lower) | underscore
  · omega
  · omega
  · rw [underscore] at digit
    exact absurd digit.2 (by decide)

theorem isBlank_of_isNamePart {character : Char} (part : isNamePart character = true) :
    Text.isBlank character = false := by
  have bounds := bounds_of_isNamePart part
  exact isBlank_of_visible (by omega) (by omega)

theorem isBlank_of_mem_numeral {numeral : Number.Numeral} (formed : numeral.Formed)
    {character : Char} (listed : character ∈ numeral.text) : Text.isBlank character = false := by
  rcases formed.mem_text listed with digit | other
  · exact isBlank_of_isNamePart (isNamePart_of_isDigit digit)
  · have visible : ∀ character ∈ ['.', 'e', 'E', '+', '-'],
        33 ≤ character.toNat ∧ character.toNat ≤ 126 := by simp
    exact isBlank_of_visible (visible character other).1 (visible character other).2

namespace Token

private theorem ofMark?_of_not_mem {character : Char} (noMark : character ∉ "()+-*/".toList) :
    ofMark? character = none := by
  unfold ofMark?
  split
  all_goals first | rfl | exact absurd (by decide) noMark

theorem not_mem_marks_of_isNamePart {character : Char} (part : isNamePart character = true) :
    character ∉ "()+-*/".toList := by
  have bounds := bounds_of_isNamePart part
  intro listed
  have below : ∀ mark ∈ "()+-*/".toList, mark.toNat < 48 := by simp
  exact absurd bounds.1 (Nat.not_le.2 (below character listed))

/-! ## Lexemes -/

/-- The texts that a token may have. A numeral is one even if its double is infinite. -/
inductive Lexeme : List Char → Prop where
  | mark {mark : Char} (listed : mark ∈ "()+-*/".toList) : Lexeme [mark]
  | name {text : String} (named : isName text = true) : Lexeme text.toList
  | numeral {numeral : Number.Numeral} (formed : numeral.Formed) : Lexeme numeral.text

/-- The token that a lexeme stands for. A numeral that is too large stands for none. -/
inductive Denotes : List Char → Token → Prop where
  | mark {token : Token} (bare : token.isOperand = false) : Denotes token.text.toList token
  | name {text : String} (named : isName text = true) : Denotes text.toList (.name text)
  | numeral {numeral : Number.Numeral} {value : Float} (formed : numeral.Formed)
      (reads : Number.read? numeral.text = some value)
      (finite : Number.magnitude value < Number.infinite) :
      Denotes numeral.text (.number value)

/-- The longest lexeme at the start of a text. -/
structure Longest (lexeme text : List Char) : Prop where
  isLexeme : Lexeme lexeme
  starts : lexeme <+: text
  longest : ∀ other, Lexeme other → other <+: text → other.length ≤ lexeme.length

/-- The text is blanks, a lexeme, blanks, a lexeme and so on, then `rest`, which does not
begin with a blank. Each lexeme is the longest that starts where it stands. -/
inductive Munches : List Char → List (List Char) → List Char → Prop where
  | stop {blanks rest : List Char} (blank : ∀ character ∈ blanks, Text.isBlank character = true)
      (solid : ∀ next ∈ rest.head?, Text.isBlank next = false) : Munches (blanks ++ rest) [] rest
  | lexeme {blanks lexeme after rest : List Char} {lexemes : List (List Char)}
      (blank : ∀ character ∈ blanks, Text.isBlank character = true)
      (longest : Longest lexeme (lexeme ++ after)) (later : Munches after lexemes rest) :
      Munches (blanks ++ (lexeme ++ after)) (lexeme :: lexemes) rest

/-- No token starts with the text: it starts with no lexeme, and what is amiss is the run
up to a blank, a parenthesis or an operator; or it starts with a numeral whose double is
infinite, and what is amiss is the numeral. -/
inductive Stuck : List Char → List Char → Prop where
  | stray {run after : List Char} (noLexeme : ∀ lexeme, Lexeme lexeme → ¬ lexeme <+: run ++ after)
      (visible : run ≠ []) (solid : ∀ character ∈ run, endsRun character = false)
      (ends : ∀ next ∈ after.head?, endsRun next = true) : Stuck (run ++ after) run
  | tooLarge {numeral : Number.Numeral} {value : Float} {after : List Char}
      (formed : numeral.Formed) (longest : Longest numeral.text (numeral.text ++ after))
      (reads : Number.read? numeral.text = some value)
      (infinite : ¬ Number.magnitude value < Number.infinite) :
      Stuck (numeral.text ++ after) numeral.text

/-! ## Characters of lexemes -/

private theorem isBlank_of_mark {mark : Char} (listed : mark ∈ "()+-*/".toList) :
    Text.isBlank mark = false := by
  have visible : ∀ mark ∈ "()+-*/".toList, 33 ≤ mark.toNat ∧ mark.toNat ≤ 126 := by simp
  exact isBlank_of_visible (visible mark listed).1 (visible mark listed).2

theorem isName_iff {text : String} {first : Char} {others : List Char}
    (spelled : text.toList = first :: others) :
    isName text = true ↔
      isNameStart first = true ∧ ∀ character ∈ others, isNamePart character = true := by
  unfold isName
  rw [spelled, Bool.and_eq_true, List.all_eq_true]

private theorem exists_cons_of_isName {text : String} (named : isName text = true) :
    ∃ first others, text.toList = first :: others := by
  cases spelled : text.toList with
  | nil =>
      rw [isName, spelled] at named
      cases named
  | cons first others => exact ⟨first, others, rfl⟩

theorem Lexeme.ne_nil {lexeme : List Char} (isLexeme : Lexeme lexeme) : lexeme ≠ [] := by
  cases isLexeme with
  | mark listed => simp
  | name named =>
      obtain ⟨first, others, spelled⟩ := exists_cons_of_isName named
      simp [spelled]
  | numeral formed =>
      obtain ⟨first, others, spelled, _⟩ := formed.exists_text_eq_cons
      simp [spelled]

/-- No lexeme has a blank in it. -/
theorem Lexeme.solid {lexeme : List Char} (isLexeme : Lexeme lexeme) {character : Char}
    (listed : character ∈ lexeme) : Text.isBlank character = false := by
  cases isLexeme with
  | mark isMark =>
      rw [List.mem_singleton.1 listed]
      exact isBlank_of_mark isMark
  | name named =>
      obtain ⟨first, others, spelled⟩ := exists_cons_of_isName named
      obtain ⟨start, parts⟩ := (isName_iff spelled).1 named
      rw [spelled] at listed
      rcases List.mem_cons.1 listed with rfl | inOthers
      · exact isBlank_of_isNamePart (isNamePart_of_isNameStart start)
      · exact isBlank_of_isNamePart (parts character inOthers)
  | numeral formed => exact isBlank_of_mem_numeral formed listed

/-- The first character settles the kind of a lexeme. -/
inductive Lexeme.Kind : Char → List Char → Prop where
  | mark {mark : Char} (listed : mark ∈ "()+-*/".toList) : Kind mark []
  | name {first : Char} {others : List Char} (start : isNameStart first = true)
      (parts : ∀ character ∈ others, isNamePart character = true) : Kind first others
  | numeral {first : Char} {others : List Char} {numeral : Number.Numeral}
      (start : Number.isDigit first = true ∨ first = '.') (formed : numeral.Formed)
      (spelled : numeral.text = first :: others) : Kind first others

theorem Lexeme.kind {first : Char} {others : List Char} (lexeme : Lexeme (first :: others)) :
    Kind first others := by
  generalize same : first :: others = text at lexeme
  cases lexeme with
  | mark listed =>
      injection same with sameFirst sameOthers
      subst sameFirst sameOthers
      exact .mark listed
  | name named =>
      obtain ⟨start, parts⟩ := (isName_iff same.symm).1 named
      exact .name start parts
  | numeral formed =>
      obtain ⟨start, remaining, spelled, digitOrPoint⟩ := formed.exists_text_eq_cons
      rw [spelled] at same
      injection same with sameFirst sameOthers
      subst sameFirst sameOthers
      exact .numeral digitOrPoint formed spelled

/-- A lexeme at the start of a text is of the kind that the first character settles. -/
theorem Lexeme.exists_kind_of_prefix {lexeme : List Char} (isLexeme : Lexeme lexeme)
    {first : Char} {remaining : List Char} (starts : lexeme <+: first :: remaining) :
    ∃ others, lexeme = first :: others ∧ others <+: remaining ∧ Kind first others := by
  obtain ⟨start, others, rfl⟩ := List.exists_cons_of_ne_nil isLexeme.ne_nil
  obtain ⟨rfl, inside⟩ := List.cons_prefix_cons.1 starts
  exact ⟨others, rfl, inside, isLexeme.kind⟩

private theorem not_nameStart_of_mark {mark : Char} (listed : mark ∈ "()+-*/".toList) :
    isNameStart mark = false :=
  Bool.eq_false_iff.2 fun start =>
    not_mem_marks_of_isNamePart (isNamePart_of_isNameStart start) listed

theorem not_numeral_of_mark {mark : Char} (listed : mark ∈ "()+-*/".toList) :
    ¬ (Number.isDigit mark = true ∨ mark = '.') := by
  rintro (digit | rfl)
  · exact not_mem_marks_of_isNamePart (isNamePart_of_isDigit digit) listed
  · exact absurd listed (by simp)

private theorem not_numeral_of_nameStart {character : Char} (start : isNameStart character = true) :
    ¬ (Number.isDigit character = true ∨ character = '.') := by
  rintro (digit | rfl)
  · rw [isNameStart_of_isDigit digit] at start
    cases start
  · cases start

/-! ## The longest lexeme -/

theorem longest_mark {mark : Char} (listed : mark ∈ "()+-*/".toList) (rest : List Char) :
    Longest [mark] (mark :: rest) where
  isLexeme := .mark listed
  starts := by simp
  longest other isLexeme starts := by
    obtain ⟨others, rfl, _, kind⟩ := isLexeme.exists_kind_of_prefix starts
    cases kind with
    | mark _ => simp
    | name start _ => rw [not_nameStart_of_mark listed] at start; cases start
    | numeral start _ _ => exact absurd start (not_numeral_of_mark listed)

theorem longest_name {text : String} (named : isName text = true) {rest : List Char}
    (ends : ∀ next ∈ rest.head?, isNamePart next = false) :
    Longest text.toList (text.toList ++ rest) where
  isLexeme := .name named
  starts := List.prefix_append _ _
  longest other isLexeme starts := by
    obtain ⟨first, others, spelled⟩ := exists_cons_of_isName named
    obtain ⟨start, _⟩ := (isName_iff spelled).1 named
    rw [spelled] at starts ⊢
    obtain ⟨otherRest, rfl, inside, kind⟩ := isLexeme.exists_kind_of_prefix starts
    cases kind with
    | mark listed => rw [not_nameStart_of_mark listed] at start; cases start
    | numeral digitOrPoint _ _ => exact absurd digitOrPoint (not_numeral_of_nameStart start)
    | name _ parts =>
        rcases List.prefix_or_prefix_of_prefix inside (List.prefix_append others rest) with
          within | beyond
        · exact Nat.succ_le_succ within.length_le
        · obtain ⟨more, rfl⟩ := beyond
          cases more with
          | nil => simp
          | cons next after =>
              obtain ⟨following, rfl⟩ := (List.prefix_append_right_inj others).1 inside
              have part : isNamePart next = true := parts next (by simp)
              rw [ends next rfl] at part
              cases part

theorem longest_numeral {text rest : List Char} {numeral : Number.Numeral}
    (scanned : Number.Numeral.scan text = some (numeral, rest)) : Longest numeral.text text where
  isLexeme := .numeral (Number.Numeral.formed_of_scan scanned)
  starts := ⟨rest, (Number.Numeral.scan_eq_some scanned).symm⟩
  longest other isLexeme starts := by
    obtain ⟨first, others, spelled, digitOrPoint⟩ :=
      (Number.Numeral.formed_of_scan scanned).exists_text_eq_cons
    have whole : text = first :: (others ++ rest) := by
      rw [Number.Numeral.scan_eq_some scanned, spelled, List.cons_append]
    obtain ⟨otherRest, rfl, _, kind⟩ := isLexeme.exists_kind_of_prefix (whole ▸ starts)
    obtain ⟨more, same⟩ := starts
    cases kind with
    | mark listed => exact absurd digitOrPoint (not_numeral_of_mark listed)
    | name start _ => exact absurd digitOrPoint (not_numeral_of_nameStart start)
    | numeral _ formed spelledOther =>
        obtain ⟨longest, after, found, bounded⟩ := formed.exists_scan_append more
        rw [spelledOther, same, scanned] at found
        injection found with found
        injection found with sameNumeral _
        rwa [← sameNumeral, spelledOther] at bounded

private theorem scan_of_longest {numeral : Number.Numeral} (formed : numeral.Formed)
    {rest : List Char}
    (longest : Longest numeral.text (numeral.text ++ rest)) :
    Number.Numeral.scan (numeral.text ++ rest) = some (numeral, rest) := by
  obtain ⟨found, after, scanned, bounded⟩ := formed.exists_scan_append rest
  have formedFound := Number.Numeral.formed_of_scan scanned
  have whole := Number.Numeral.scan_eq_some scanned
  have bound : found.text.length ≤ numeral.text.length :=
    longest.longest _ (.numeral formedFound) ⟨after, whole.symm⟩
  obtain ⟨sameText, rfl⟩ := List.append_inj whole (Nat.le_antisymm bounded bound)
  rw [formedFound.eq_of_text_eq formed sameText.symm] at scanned
  exact scanned

private theorem takeWhile_of_longest {text : String} (named : isName text = true) {rest : List Char}
    (longest : Longest text.toList (text.toList ++ rest)) : rest.takeWhile isNamePart = [] := by
  obtain ⟨first, others, spelled⟩ := exists_cons_of_isName named
  obtain ⟨start, parts⟩ := (isName_iff spelled).1 named
  have longer : isName (String.ofList (text.toList ++ rest.takeWhile isNamePart)) = true := by
    rw [isName_iff (by rw [String.toList_ofList, spelled]; rfl)]
    refine ⟨start, fun character listed => ?_⟩
    rcases List.mem_append.1 listed with inName | beyond
    · exact parts character inName
    · exact List.mem_takeWhile_imp beyond
  have bound := longest.longest _ (.name longer)
  rw [String.toList_ofList, List.prefix_append_right_inj, List.length_append] at bound
  have nothing := bound (List.takeWhile_prefix isNamePart)
  exact List.eq_nil_of_length_eq_zero (by omega)

/-! ## Scanning one token -/

private theorem scanOne_mark {mark : Char} {token : Token} (marks : ofMark? mark = some token)
    (rest : List Char) : scanOne mark rest = .ok (token, rest) := by
  unfold scanOne
  rw [marks]

private theorem scanOne_nameStart {first : Char} (start : isNameStart first = true)
    (rest : List Char) :
    scanOne first rest =
      .ok (.name (String.ofList (first :: rest.takeWhile isNamePart)),
        rest.dropWhile isNamePart) := by
  have noMark := ofMark?_of_not_mem
    (not_mem_marks_of_isNamePart (isNamePart_of_isNameStart start))
  unfold scanOne
  rw [noMark]
  exact if_pos start

private theorem scanOne_eq_scanNumber {first : Char} (noMark : first ∉ "()+-*/".toList)
    (noName : isNameStart first = false) (rest : List Char) :
    scanOne first rest = scanNumber (first :: rest) := by
  unfold scanOne
  rw [ofMark?_of_not_mem noMark, noName]
  rfl

private theorem scanOne_numeral {numeral : Number.Numeral} {value : Float} (formed : numeral.Formed)
    (reads : Number.read? numeral.text = some value) {rest : List Char}
    (longest : Longest numeral.text (numeral.text ++ rest)) :
    ∃ first remaining, numeral.text ++ rest = first :: remaining ∧ Text.isBlank first = false ∧
      scanOne first remaining =
        if Number.magnitude value < Number.infinite then
          .ok (.number value, rest)
        else
          .error numeral.text := by
  rw [Number.read?_of_formed formed] at reads
  injection reads with same
  obtain ⟨first, others, spelled, digitOrPoint⟩ := formed.exists_text_eq_cons
  have noMark : first ∉ "()+-*/".toList := fun listed => not_numeral_of_mark listed digitOrPoint
  have noName : isNameStart first = false :=
    Bool.eq_false_iff.2 fun start => not_numeral_of_nameStart start digitOrPoint
  have solid : Text.isBlank first = false :=
    isBlank_of_mem_numeral formed (spelled ▸ List.mem_cons_self)
  have scanned := scan_of_longest formed longest
  rw [spelled, List.cons_append] at scanned
  refine ⟨first, others ++ rest, by rw [spelled]; rfl, solid, ?_⟩
  rw [scanOne_eq_scanNumber noMark noName, scanNumber, scanned, ← same,
    Number.magnitude_toFloat]

theorem exists_mark_of_bare {token : Token} (bare : token.isOperand = false) :
    ∃ mark, token.text.toList = [mark] ∧ mark ∈ "()+-*/".toList ∧
      ofMark? mark = some token := by
  cases token with
  | leftParen => exact ⟨'(', rfl, by simp, rfl⟩
  | rightParen => exact ⟨')', rfl, by simp, rfl⟩
  | operator op =>
      refine ⟨op.symbol, String.toList_singleton op.symbol, ?_, ?_⟩
      · cases op <;> simp [Operator.symbol]
      · cases op <;> rfl
  | number value => cases bare
  | name text => cases bare

/-- The longest lexeme is taken, if it stands for a token. -/
theorem scanOne_of_denotes {lexeme rest : List Char} {token : Token}
    (longest : Longest lexeme (lexeme ++ rest)) (denotes : Denotes lexeme token) :
    ∃ first remaining, lexeme ++ rest = first :: remaining ∧ Text.isBlank first = false ∧
      scanOne first remaining = .ok (token, rest) := by
  cases denotes with
  | mark bare =>
      obtain ⟨mark, spelled, listed, marks⟩ := exists_mark_of_bare bare
      exact ⟨mark, rest, by rw [spelled]; rfl, isBlank_of_mark listed, scanOne_mark marks rest⟩
  | @name text named =>
      obtain ⟨first, others, spelled⟩ := exists_cons_of_isName named
      obtain ⟨start, parts⟩ := (isName_iff spelled).1 named
      have stops := takeWhile_of_longest named longest
      have whole : rest.dropWhile isNamePart = rest := by
        have split := @List.takeWhile_append_dropWhile _ isNamePart rest
        rwa [stops, List.nil_append] at split
      refine ⟨first, others ++ rest, by rw [spelled]; rfl,
        isBlank_of_isNamePart (isNamePart_of_isNameStart start), ?_⟩
      rw [scanOne_nameStart start, List.takeWhile_append_of_pos parts,
        List.dropWhile_append_of_pos parts, stops, whole, List.append_nil, ← spelled,
        String.ofList_toList]
  | numeral formed reads finite =>
      obtain ⟨first, remaining, same, solid, scanned⟩ := scanOne_numeral formed reads longest
      exact ⟨first, remaining, same, solid, scanned.trans (if_pos finite)⟩

private theorem endsRun_of_mark {mark : Char} (listed : mark ∈ "()+-*/".toList) :
    endsRun mark = true := by
  simp only [endsRun, List.contains_iff_mem.2 listed, Bool.or_true]

private theorem strayRun_append {run after : List Char}
    (solid : ∀ character ∈ run, endsRun character = false)
    (ends : ∀ next ∈ after.head?, endsRun next = true) : strayRun (run ++ after) = run := by
  have kept : ∀ character ∈ run, (!endsRun character) = true := by simpa using solid
  rw [strayRun, List.takeWhile_append_of_pos kept]
  cases after with
  | nil => simp
  | cons next beyond => simp [ends next rfl]

/-- Where no token starts, what is amiss is reported. -/
theorem scanOne_of_stuck {text stray : List Char} (stuck : Stuck text stray) :
    ∃ first remaining, text = first :: remaining ∧ Text.isBlank first = false ∧
      scanOne first remaining = .error stray := by
  cases stuck with
  | @stray _ after noLexeme visible solid ends =>
      obtain ⟨first, others, rfl⟩ := List.exists_cons_of_ne_nil visible
      have noEnd : endsRun first = false := solid first List.mem_cons_self
      have noMark : first ∉ "()+-*/".toList := fun listed =>
        Bool.false_ne_true (noEnd.symm.trans (endsRun_of_mark listed))
      have noName : isNameStart first = false := by
        rw [Bool.eq_false_iff]
        intro start
        have named : isName (String.ofList [first]) = true :=
          (isName_iff String.toList_ofList).2 ⟨start, by simp⟩
        exact noLexeme _ (.name named) (by simp)
      have noNumeral : Number.Numeral.scan (first :: others ++ after) = none := by
        rw [Option.eq_none_iff_forall_ne_some]
        rintro ⟨numeral, rest⟩ scanned
        have longest := longest_numeral scanned
        exact noLexeme _ longest.isLexeme longest.starts
      refine ⟨first, others ++ after, rfl, (Bool.or_eq_false_iff.1 noEnd).1, ?_⟩
      rw [scanOne_eq_scanNumber noMark noName, ← List.cons_append, scanNumber, noNumeral]
      exact congrArg Except.error (strayRun_append solid ends)
  | tooLarge formed longest reads infinite =>
      obtain ⟨first, remaining, same, solid, scanned⟩ := scanOne_numeral formed reads longest
      exact ⟨first, remaining, same, solid, scanned.trans (if_neg infinite)⟩

/-! ## Tokens and what is amiss -/

private theorem exists_denotes_of_mark {mark : Char} (listed : mark ∈ "()+-*/".toList) :
    ∃ token, Denotes [mark] token := by
  simp only [String.reduceToList, List.mem_cons, List.not_mem_nil, or_false] at listed
  rcases listed with rfl | rfl | rfl | rfl | rfl | rfl
  · exact ⟨.leftParen, @Denotes.mark .leftParen rfl⟩
  · exact ⟨.rightParen, @Denotes.mark .rightParen rfl⟩
  · exact ⟨.operator .add, @Denotes.mark (.operator .add) rfl⟩
  · exact ⟨.operator .sub, @Denotes.mark (.operator .sub) rfl⟩
  · exact ⟨.operator .mul, @Denotes.mark (.operator .mul) rfl⟩
  · exact ⟨.operator .div, @Denotes.mark (.operator .div) rfl⟩

private theorem exists_longest_of_nameStart {first : Char} (start : isNameStart first = true)
    (remaining : List Char) :
    ∃ lexeme rest token, first :: remaining = lexeme ++ rest ∧
      Longest lexeme (lexeme ++ rest) ∧ Denotes lexeme token := by
  have named : isName (String.ofList (first :: remaining.takeWhile isNamePart)) = true :=
    (isName_iff String.toList_ofList).2
      ⟨start, fun character listed => List.mem_takeWhile_imp listed⟩
  have ends : ∀ next ∈ (remaining.dropWhile isNamePart).head?, isNamePart next = false := by
    intro next head
    have stops := List.head?_dropWhile_not isNamePart remaining
    rwa [Option.mem_def.1 head] at stops
  refine ⟨_, _, _, ?_, longest_name named ends, .name named⟩
  rw [String.toList_ofList, List.cons_append, List.takeWhile_append_dropWhile]

private theorem exists_stuck_of_no_lexeme {first : Char} {remaining : List Char}
    (noEnd : endsRun first = false)
    (noLexeme : ∀ lexeme, Lexeme lexeme → ¬ lexeme <+: first :: remaining) :
    ∃ stray, Stuck (first :: remaining) stray := by
  have split := @List.takeWhile_append_dropWhile _ (fun other => !endsRun other)
    (first :: remaining)
  rw [← split] at noLexeme ⊢
  refine ⟨_, .stray noLexeme (by simp [noEnd]) ?_ ?_⟩
  · intro character listed
    simpa using List.mem_takeWhile_imp listed
  · intro next head
    have stops := List.head?_dropWhile_not (fun other => !endsRun other) (first :: remaining)
    rw [Option.mem_def.1 head] at stops
    simpa using stops

/-- A character that is not blank starts a token, or none starts there. -/
theorem exists_longest_or_stuck {first : Char} (solid : Text.isBlank first = false)
    (remaining : List Char) :
    (∃ lexeme rest token, first :: remaining = lexeme ++ rest ∧
      Longest lexeme (lexeme ++ rest) ∧ Denotes lexeme token) ∨
      ∃ stray, Stuck (first :: remaining) stray := by
  by_cases isMark : first ∈ "()+-*/".toList
  · obtain ⟨token, denotes⟩ := exists_denotes_of_mark isMark
    exact Or.inl ⟨[first], remaining, token, rfl, longest_mark isMark remaining, denotes⟩
  · by_cases start : isNameStart first = true
    · exact Or.inl (exists_longest_of_nameStart start remaining)
    · cases scanned : Number.Numeral.scan (first :: remaining) with
      | some found =>
          obtain ⟨numeral, rest⟩ := found
          have formed := Number.Numeral.formed_of_scan scanned
          have reads := Number.read?_of_formed formed
          have longest := longest_numeral scanned
          rw [Number.Numeral.scan_eq_some scanned] at longest ⊢
          by_cases finite : Number.magnitude (numeral.decimal.toFloat false) < Number.infinite
          · exact Or.inl ⟨_, _, _, rfl, longest, .numeral formed reads finite⟩
          · exact Or.inr ⟨_, .tooLarge formed longest reads finite⟩
      | none =>
          have noEnd : endsRun first = false := by simpa [endsRun, solid] using isMark
          refine Or.inr (exists_stuck_of_no_lexeme noEnd ?_)
          intro lexeme isLexeme starts
          obtain ⟨others, rfl, _, kind⟩ := isLexeme.exists_kind_of_prefix starts
          cases kind with
          | mark listed => exact isMark listed
          | name startsName _ => exact start startsName
          | numeral _ formed spelled =>
              obtain ⟨more, same⟩ := starts
              obtain ⟨longest, rest, found, _⟩ := formed.exists_scan_append more
              rw [spelled, same, scanned] at found
              cases found

/-! ## Scanning a text -/

private theorem scanFrom_blanks_append {blanks : List Char}
    (blank : ∀ character ∈ blanks, Text.isBlank character = true) (count : Nat)
    (rest : List Char) : scanFrom count (blanks ++ rest) = scanFrom count rest := by
  induction blanks with
  | nil => rfl
  | cons first others inductionHypothesis =>
      obtain ⟨blankFirst, blankOthers⟩ := List.forall_mem_cons.1 blank
      rw [List.cons_append, scanFrom, if_pos blankFirst, inductionHypothesis blankOthers]

private theorem scanFrom_cons_of_scanOne
    {first : Char} {remaining rest : List Char} {token : Token} (count : Nat)
    (solid : Text.isBlank first = false) (scanned : scanOne first remaining = .ok (token, rest)) :
    scanFrom count (first :: remaining) = (scanFrom (count + 1) rest).map (token :: ·) := by
  rw [scanFrom, if_neg (by simp [solid])]
  split
  · next stray failed =>
      rw [scanned] at failed
      cases failed
  · next found after succeeded =>
      rw [scanned] at succeeded
      injection succeeded with same
      injection same with sameToken sameRest
      rw [sameToken, sameRest]

private theorem scanFrom_of_stuck {text stray : List Char} (stuck : Stuck text stray)
    (count : Nat) :
    scanFrom count text = .error (.invalidToken (String.ofList stray) (count + 1)) := by
  obtain ⟨first, remaining, rfl, solid, scanned⟩ := scanOne_of_stuck stuck
  rw [scanFrom, if_neg (by simp [solid])]
  split
  · next other failed =>
      rw [scanned] at failed
      injection failed with same
      rw [same]
  · next token rest succeeded =>
      rw [scanned] at succeeded
      cases succeeded

/-- Scanning reads the tokens of the longest lexemes and goes on with what follows them. -/
theorem scanFrom_of_munches
    {text rest : List Char} {lexemes : List (List Char)} {tokens : List Token}
    (munches : Munches text lexemes rest) (denote : List.Forall₂ Denotes lexemes tokens)
    (count : Nat) :
    scanFrom count text = (scanFrom (count + tokens.length) rest).map (tokens ++ ·) := by
  induction munches generalizing tokens count with
  | @stop blanks rest blank solid =>
      cases denote
      rw [scanFrom_blanks_append blank]
      cases scanFrom count rest with
      | error cause => rfl
      | ok others => rfl
  | @lexeme blanks lexeme after rest lexemes blank longest later inductionHypothesis =>
      obtain ⟨token, others, denotes, denoteLater, rfl⟩ := List.forall₂_cons_left_iff.1 denote
      obtain ⟨first, remaining, same, solid, scanned⟩ := scanOne_of_denotes longest denotes
      rw [scanFrom_blanks_append blank, same, scanFrom_cons_of_scanOne count solid scanned,
        inductionHypothesis denoteLater, List.length_cons, Nat.add_assoc,
        Nat.add_comm 1 others.length]
      cases scanFrom (count + (others.length + 1)) rest with
      | error cause => rfl
      | ok beyond => rfl

/-- Every text is lexemes, up to its end or to where no token starts. -/
theorem exists_munches (text : List Char) :
    ∃ lexemes tokens rest, Munches text lexemes rest ∧ List.Forall₂ Denotes lexemes tokens ∧
      (rest = [] ∨ ∃ stray, Stuck rest stray) := by
  induction size : text.length using Nat.strong_induction_on generalizing text with
  | _ bound inductionHypothesis =>
      subst size
      have split := @List.takeWhile_append_dropWhile _ Text.isBlank text
      have blank : ∀ character ∈ text.takeWhile Text.isBlank, Text.isBlank character = true :=
        fun character listed => List.mem_takeWhile_imp listed
      cases solid : text.dropWhile Text.isBlank with
      | nil =>
          rw [solid] at split
          refine ⟨[], [], [], ?_, .nil, Or.inl rfl⟩
          exact split ▸ .stop blank (by simp)
      | cons first remaining =>
          have solidFirst := Text.isBlank_head_of_dropBlank solid
          rw [solid] at split
          rcases exists_longest_or_stuck solidFirst remaining with
            ⟨lexeme, after, token, same, longest, denotes⟩ | stuck
          · have visible := List.length_pos_iff.2 longest.isLexeme.ne_nil
            have shorter : after.length < text.length := by
              rw [← split, same, List.length_append, List.length_append]
              omega
            obtain ⟨lexemes, tokens, rest, later, denoteLater, ending⟩ :=
              inductionHypothesis after.length shorter after rfl
            rw [same] at split
            refine ⟨lexeme :: lexemes, token :: tokens, rest, ?_, .cons denotes denoteLater, ending⟩
            exact split ▸ .lexeme blank longest later
          · refine ⟨[], [], first :: remaining, ?_, .nil, Or.inr stuck⟩
            refine split ▸ .stop blank ?_
            rintro next head
            obtain rfl : first = next := by simpa using head
            exact solidFirst

theorem scan_of_munches
    {text : String} {lexemes : List (List Char)} {tokens : List Token}
    (munches : Munches text.toList lexemes []) (denote : List.Forall₂ Denotes lexemes tokens) :
    scan text = .ok tokens := by
  rw [scan, scanFrom_of_munches munches denote, scanFrom]
  simp [Except.map]

private theorem scan_of_munches_of_stuck
    {text : String} {rest stray : List Char} {lexemes : List (List Char)} {tokens : List Token}
    (munches : Munches text.toList lexemes rest) (denote : List.Forall₂ Denotes lexemes tokens)
    (stuck : Stuck rest stray) :
    scan text = .error (.invalidToken (String.ofList stray) (tokens.length + 1)) := by
  rw [scan, scanFrom_of_munches munches denote, scanFrom_of_stuck stuck, Nat.zero_add]
  rfl

theorem exists_munches_of_scan
    {text : String} {tokens : List Token} (scanned : scan text = .ok tokens) :
    ∃ lexemes, Munches text.toList lexemes [] ∧ List.Forall₂ Denotes lexemes tokens := by
  obtain ⟨lexemes, others, rest, munches, denote, rfl | ⟨stray, stuck⟩⟩ :=
    exists_munches text.toList
  · rw [scan_of_munches munches denote] at scanned
    injection scanned with same
    exact ⟨lexemes, munches, same ▸ denote⟩
  · rw [scan_of_munches_of_stuck munches denote stuck] at scanned
    cases scanned

/-- A text has tokens exactly if it is blanks and longest lexemes, and these are its
tokens. Every other text is reported at the first place where no lexeme starts, or where a
numeral has no finite double; and all numerals are read as doubles. -/
theorem scan_eq_ok_iff_munches (text : String) :
    (∀ tokens, scan text = .ok tokens ↔
      ∃ lexemes, Munches text.toList lexemes [] ∧ List.Forall₂ Denotes lexemes tokens) ∧
    (∀ error, scan text = .error error ↔
      ∃ lexemes tokens rest stray, Munches text.toList lexemes rest ∧
        List.Forall₂ Denotes lexemes tokens ∧ Stuck rest stray ∧
          error = .invalidToken (String.ofList stray) (tokens.length + 1)) ∧
    ∀ numeral : Number.Numeral, numeral.Formed →
      ∃ value, Number.read? numeral.text = some value := by
  refine ⟨fun tokens => ⟨exists_munches_of_scan, ?_⟩, fun error => ⟨fun failed => ?_, ?_⟩,
    fun numeral formed => ⟨_, Number.read?_of_formed formed⟩⟩
  · rintro ⟨lexemes, munches, denote⟩
    exact scan_of_munches munches denote
  · obtain ⟨lexemes, tokens, rest, munches, denote, rfl | ⟨stray, stuck⟩⟩ :=
      exists_munches text.toList
    · rw [scan_of_munches munches denote] at failed
      cases failed
    · rw [scan_of_munches_of_stuck munches denote stuck] at failed
      injection failed with same
      exact ⟨lexemes, tokens, rest, stray, munches, denote, stuck, same.symm⟩
  · rintro ⟨lexemes, tokens, rest, stray, munches, denote, stuck, rfl⟩
    exact scan_of_munches_of_stuck munches denote stuck

/-- A letter with a sign but no digits after it is no exponent: it starts a name. -/
example : (scan "1e+ a").toOption = some [.number 1, .name "e", .operator .add, .name "a"] := by
  decide +kernel

end Token

end Reckon
