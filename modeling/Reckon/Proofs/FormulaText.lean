import Reckon.Proofs.Spacing

/-!
The text of a formula is read as the same formula. Tokens are written without blanks
between them, and are still told apart: what follows a name or a number in a formula is
an operator or a closing parenthesis, with which neither of them goes on.
-/

namespace Reckon

namespace Token

/-! ## Tokens that can be read again -/

/-- A name is well-formed, and a number is finite and has no sign. -/
def Readable : Token → Prop
  | .name text => isName text = true
  | .number value => Number.magnitude value < Number.infinite ∧ Number.isNegative value = false
  | _ => True

/-- A number that is read has no sign, and it is refused where it is too large. -/
theorem Denotes.readable {lexeme : List Char} {token : Token} (denotes : Denotes lexeme token) :
    token.Readable := by
  cases denotes with
  | @mark token bare =>
      cases token with
      | number value => cases bare
      | name text => cases bare
      | leftParen => trivial
      | rightParen => trivial
      | operator op => trivial
  | name named => exact named
  | @numeral numeral value formed reads finite =>
      rw [Number.read?_of_formed formed] at reads
      injection reads with same
      subst same
      rw [Number.magnitude_toFloat] at finite
      exact ⟨(Number.magnitude_toFloat numeral.decimal).symm ▸ finite,
        Number.isNegative_signed false finite⟩

theorem Readable.denotes {token : Token} (readable : token.Readable) :
    Denotes token.text.toList token := by
  cases token with
  | name text => exact .name readable
  | number value =>
      obtain ⟨numeral, plain, spelled, _⟩ := Number.exists_numeral_plainText readable.1
      have reads := Number.read?_plainText readable.1
      rw [readable.2, if_neg (by decide), List.nil_append] at spelled
      rw [text, spelled] at *
      exact .numeral plain.formed reads readable.1
  | leftParen => exact .mark rfl
  | rightParen => exact .mark rfl
  | operator op => exact .mark rfl

theorem readable_of_scan {text : String} {tokens : List Token} (scanned : scan text = .ok tokens) :
    ∀ token ∈ tokens, token.Readable := by
  obtain ⟨lexemes, munches, denote⟩ := exists_munches_of_scan scanned
  clear scanned munches
  induction denote with
  | nil => simp
  | cons denotes _ inductionHypothesis =>
      exact List.forall_mem_cons.2 ⟨denotes.readable, inductionHypothesis⟩

/-- Tokens that may follow one another are read from their joined texts. -/
theorem scan_join_text {tokens : List Token} (readable : ∀ token ∈ tokens, token.Readable)
    (adjacent : tokens.IsChain fun previous next => previous.mayFollow next = true) :
    scan (String.join (tokens.map Token.text)) = .ok tokens := by
  have denote : List.Forall₂ Denotes (tokens.map fun token => token.text.toList) tokens := by
    rw [List.forall₂_map_left_iff, List.forall₂_same]
    exact fun token listed => (readable token listed).denotes
  have spaced := spaced_flatten (tokens.map fun token => token.text.toList)
  refine scan_of_munches ?_ denote
  rw [String.toList_join, List.flatMap_map, List.flatMap_def]
  exact spaced.munches denote adjacent

end Token

/-! ## Formulas -/

namespace Formula

/-- The tokens of a formula can be read again: its names are canonical ones, and its
numbers are those that were scanned. -/
theorem readable_of_ofText
    {rules : NameRules} {text : String} {formula : Formula}
    (read : ofText rules text = .ok formula) :
    ∀ token ∈ formula.tokens, token.Readable := by
  intro token listed
  cases token with
  | name name => exact (allowed_of_ofText read (mem_names.2 listed)).1
  | number value =>
      obtain ⟨raw, scanned, _, _, same⟩ := (ofText_eq_ok_iff_derives rules text formula).1 read
      rw [same] at listed
      obtain ⟨written, listedRaw, renamed⟩ := List.mem_map.1 listed
      cases written with
      | number other =>
          rw [← renamed]
          exact Token.readable_of_scan scanned _ listedRaw
      | name name => cases renamed
      | leftParen => cases renamed
      | rightParen => cases renamed
      | operator op => cases renamed
  | leftParen => trivial
  | rightParen => trivial
  | operator op => trivial

theorem derives_of_ofText
    {rules : NameRules} {text : String} {formula : Formula}
    (read : ofText rules text = .ok formula) : Derives .expression formula.tokens := by
  obtain ⟨raw, _, derives, _, same⟩ := (ofText_eq_ok_iff_derives rules text formula).1 read
  rw [same]
  exact derives.renamed rules

theorem scan_text
    {rules : NameRules} {text : String} {formula : Formula}
    (read : ofText rules text = .ok formula) :
    Token.scan formula.text = .ok formula.tokens := by
  have complete := Token.complete_of_derives (derives_of_ofText read)
  exact Token.scan_join_text (readable_of_ofText read) complete.fits.adjacent

/-- The text of a formula is read as the same formula by all rules that leave its names
as they are and accept them, whatever the rules were that it was read with. -/
theorem ofText_text
    {rules other : NameRules} {text : String} {formula : Formula}
    (read : ofText rules text = .ok formula)
    (fixed : ∀ name ∈ formula.names, other.canonical name = name)
    (accepted : ∀ name ∈ formula.names, other.accepts name = true) :
    ofText other formula.text = .ok formula := by
  have unchanged : ∀ token ∈ formula.tokens, token.renamed other = token := by
    intro token listed
    cases token with
    | name name => rw [Token.renamed, fixed name (mem_names.2 listed)]
    | number value => rfl
    | leftParen => rfl
    | rightParen => rfl
    | operator op => rfl
  refine (ofText_eq_ok_iff_derives other formula.text formula).2
    ⟨formula.tokens, scan_text read, derives_of_ofText read, ?_, ?_⟩
  · intro written listed
    have mentioned : written ∈ formula.names := mem_names.2 listed
    rw [fixed written mentioned]
    exact ⟨(allowed_of_ofText read mentioned).1, accepted written mentioned⟩
  · exact (List.map_congr_left unchanged).trans (List.map_id _) |>.symm

end Formula

/-! ## Contents -/

namespace Contents

theorem isBlank_of_mem_plainText
    {value : Float} (finite : Number.magnitude value < Number.infinite) {character : Char}
    (listed : character ∈ (Number.plainText value).toList) :
    Text.isBlank character = false := by
  obtain ⟨numeral, plain, text, _⟩ := Number.exists_numeral_plainText finite
  rw [text] at listed
  rcases List.mem_append.1 listed with inSign | inNumeral
  · split at inSign
    · rw [List.mem_singleton.1 inSign]
      decide
    · cases inSign
  · exact isBlank_of_mem_numeral plain.formed inNumeral

theorem number?_plainText {value : Float} (finite : Number.magnitude value < Number.infinite) :
    number? (Number.plainText value) = some value := by
  unfold number?
  rw [Text.trimBlank_of_solid fun character listed => isBlank_of_mem_plainText finite listed,
    Number.read?_plainText finite, Option.filter_some, if_pos (decide_eq_true finite)]

private theorem number?_of_equals (expression : List Char) :
    number? (String.ofList ('=' :: expression)) = none := by
  obtain ⟨others, trimmed⟩ := @Text.exists_trimBlank_eq_cons '=' (by decide) expression
  unfold number?
  rw [String.toList_ofList, trimmed]
  have nothing : Number.read? ('=' :: others) = none := by
    change Number.readUnsigned false ('=' :: others) = none
    rw [Number.readUnsigned_cons (by decide) (by decide)]
    rfl
  rw [nothing]
  rfl

theorem toList_inputText_formula (formula : Formula) :
    (inputText (.formula formula)).toList = '=' :: formula.text.toList := by
  rw [inputText, String.toList_append]
  rfl

theorem number?_inputText_formula (formula : Formula) :
    number? (inputText (.formula formula)) = none := by
  rw [← String.ofList_toList (s := inputText (.formula formula)), toList_inputText_formula]
  exact number?_of_equals _

/-- The text that stands for contents gives these contents again: numbers bit for bit,
texts character for character and formulas token for token. -/
theorem ofInput_inputText
    {rules : NameRules} {input : String} {contents : Contents}
    (given : ofInput rules input = .ok contents)
    (fixed : ∀ name ∈ contents.names, rules.canonical name = name) :
    ofInput rules contents.inputText = .ok contents := by
  rcases ofInput_eq_ok_cases given with
    ⟨value, reads, same⟩ | ⟨expression, formula, _, _, parsed, same⟩ | ⟨reads, unmarked, same⟩
  · subst same
    have finite : Number.magnitude value < Number.infinite := by
      simpa using (Option.filter_eq_some_iff.1 reads).2
    exact ofInput_of_number (number?_plainText finite)
  · subst same
    rw [ofInput_of_formula (number?_inputText_formula formula) (toList_inputText_formula formula),
      String.ofList_toList,
      Formula.ofText_text parsed fixed fun _ mentioned =>
        (Formula.allowed_of_ofText parsed mentioned).2]
    rfl
  · subst same
    exact ofInput_of_text reads unmarked

end Contents

end Reckon
