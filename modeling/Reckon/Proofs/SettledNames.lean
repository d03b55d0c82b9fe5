import Reckon.Proofs.FormulaText
import Reckon.Startup.Options

/-!
Settled names. The canonical form of a name, written instead of it, should mean the same
name: what a formula shows can then be entered again. The two normalizations of the
program settle all names of cells, since text in upper case holds no
small letter of the Latin alphabet any more.
-/

namespace Reckon

/-- A canonical form that names a cell is its own canonical form. -/
def NameRules.Settled (rules : NameRules) : Prop :=
  ∀ written, rules.forCells.accepts (rules.canonical written) = true →
    rules.canonical (rules.canonical written) = rules.canonical written

theorem NameRules.Settled.canonical_eq_self
    {rules : NameRules} (settled : rules.Settled) {name : String}
    (canonical : ∃ written, rules.canonical written = name)
    (accepted : rules.forCells.accepts name = true) : rules.canonical name = name := by
  obtain ⟨written, rfl⟩ := canonical
  exact settled written accepted

/-! ## Names in formulas -/

private theorem Formula.exists_written_of_ofText
    {rules : NameRules} {text : String} {formula : Formula}
    (read : ofText rules text = .ok formula) {name : String} (mentioned : name ∈ formula.names) :
    ∃ written, rules.canonical written = name := by
  obtain ⟨raw, _, _, _, same⟩ := (ofText_eq_ok_iff_derives rules text formula).1 read
  have listed : Token.name name ∈ raw.map (Token.renamed rules) := same ▸ mem_names.1 mentioned
  obtain ⟨token, _, renamed⟩ := List.mem_map.1 listed
  cases token with
  | name written =>
      injection renamed with canonical
      exact ⟨written, canonical⟩
  | number value => cases renamed
  | leftParen => cases renamed
  | rightParen => cases renamed
  | operator op => cases renamed

theorem NameRules.Settled.canonical_of_mem_names
    {rules : NameRules} (settled : rules.Settled) {input : String} {contents : Contents}
    (given : Contents.ofInput rules.forCells input = .ok contents) :
    ∀ name ∈ contents.names, rules.canonical name = name := by
  intro name mentioned
  rcases Contents.ofInput_eq_ok_cases given with
    ⟨value, _, same⟩ | ⟨expression, formula, _, _, parsed, same⟩ | ⟨_, _, same⟩
  · subst same
    cases mentioned
  · subst same
    exact settled.canonical_eq_self (Formula.exists_written_of_ofText parsed mentioned)
      (Formula.allowed_of_ofText parsed mentioned).2
  · subst same
    cases mentioned

/-! ## Upper case -/

namespace Text

abbrev SmallLetter (code : Nat) : Prop :=
  97 ≤ code ∧ code ≤ 122

private theorem not_smallLetter_toUpper (character : Char) :
    ¬ SmallLetter character.toUpper.toNat := by
  by_cases small : 'a'.val ≤ character.val ∧ character.val ≤ 'z'.val
  · have sum : character.toUpper.toNat = (character.val + ('A'.val - 'a'.val)).toNat := by
      rw [Char.toUpper, dif_pos small]
      rfl
    obtain ⟨above, below⟩ := small
    rw [UInt32.le_iff_toNat_le] at above below
    change 97 ≤ character.val.toNat at above
    change character.val.toNat ≤ 122 at below
    rw [sum, UInt32.toNat_add]
    change ¬ SmallLetter ((character.val.toNat + 4294967264) % 2 ^ (32 : Nat))
    omega
  · rw [Char.toUpper, dif_neg small]
    exact small

private theorem not_smallLetter_ofNat {code : Nat} (large : ¬ SmallLetter code) :
    ¬ SmallLetter (Char.ofNat code).toNat := by
  rw [Char.toNat_ofNat]
  split
  · exact large
  · omega

private theorem not_smallLetter_of_lookup
    {code : Nat} {codes : List Nat} (found : upperExpansions.lookup code = some codes) :
    ∀ image ∈ codes, ¬ SmallLetter image := by
  have table : ∀ expansion ∈ upperExpansions, ∀ image ∈ expansion.2, ¬ SmallLetter image := by
    decide
  obtain ⟨before, after, split, _⟩ := List.lookup_eq_some_iff.1 found
  have listed : (code, codes) ∈ upperExpansions := by
    rw [split]
    exact List.mem_append_right _ List.mem_cons_self
  exact table _ listed

private theorem not_smallLetter_of_image?
    {run : CaseRun} (listed : run ∈ upperRuns) {code image : Nat}
    (found : run.image? code = some image) : ¬ SmallLetter image := by
  have table : ∀ run ∈ upperRuns,
      122 < (run.first : Int) + run.distance ∨ (run.last : Int) + run.distance < 97 := by
    decide +kernel
  unfold CaseRun.image? at found
  split at found
  · next within =>
      injection found with same
      have outside := table run listed
      omega
  · cases found

theorem not_smallLetter_of_mem_upperChar
    {character image : Char} (listed : image ∈ upperChar character) :
    ¬ SmallLetter image.toNat := by
  unfold upperChar at listed
  split at listed
  · rw [List.mem_singleton.1 listed]
    exact not_smallLetter_toUpper character
  · next foreign =>
      unfold recase at listed
      split at listed
      · next codes found =>
          obtain ⟨code, inCodes, same⟩ := List.mem_map.1 listed
          rw [← same]
          exact not_smallLetter_ofNat (not_smallLetter_of_lookup found code inCodes)
      · split at listed
        · next code found =>
            obtain ⟨run, inRuns, moved⟩ := List.exists_of_findSome?_eq_some found
            rw [List.mem_singleton.1 listed]
            exact not_smallLetter_ofNat (not_smallLetter_of_image? inRuns moved)
        · rw [List.mem_singleton.1 listed]
          omega

private theorem upperChar_eq_singleton
    {character : Char} (ascii : character.toNat < 128) (large : ¬ SmallLetter character.toNat) :
    upperChar character = [character] := by
  rw [upperChar, if_pos ascii, Char.toUpper, dif_neg]
  exact large

/-- Text in upper case in which all characters are ASCII stays as it is in upper case. -/
theorem upper_upper_of_ascii
    {text : String} (ascii : ∀ character ∈ (upper text).toList, character.toNat < 128) :
    upper (upper text) = upper text := by
  have unchanged : ∀ character ∈ (upper text).toList, upperChar character = [character] := by
    intro character listed
    have inImages : character ∈ text.toList.flatMap upperChar := by
      rwa [upper, String.toList_ofList] at listed
    obtain ⟨written, _, image⟩ := List.mem_flatMap.1 inImages
    exact upperChar_eq_singleton (ascii character listed) (not_smallLetter_of_mem_upperChar image)
  calc
    upper (upper text) = String.ofList ((upper text).toList.flatMap fun other => [other]) :=
      congrArg String.ofList (List.flatMap_congr unchanged)
    _ = upper text := by rw [List.flatMap_singleton', String.ofList_toList]

end Text

theorem isNamePart_of_isCellName
    {text : String} (named : isCellName text = true) :
    ∀ character ∈ text.toList, isNamePart character = true := by
  simp only [isCellName, Bool.and_eq_true, List.all_eq_true] at named
  intro character listed
  rw [← List.takeWhile_append_dropWhile (p := Char.isAlpha) (l := text.toList)] at listed
  rcases List.mem_append.1 listed with letter | digit
  · simp [isNamePart, Char.isAlphanum, List.mem_takeWhile_imp letter]
  · simp [isNamePart, Char.isAlphanum, named.2 character digit]

namespace Normalization

theorem settled (normalization : Normalization) : normalization.rules.Settled := by
  intro written accepted
  cases normalization with
  | none => rfl
  | upper =>
      have named : isCellName (Text.upper written) = true :=
        (NameRules.accepts_forCells.1 accepted).1
      apply Text.upper_upper_of_ascii
      intro character listed
      have bounds := bounds_of_isNamePart (isNamePart_of_isCellName named character listed)
      omega

end Normalization

end Reckon
