import Reckon.Proofs.CanonicalText

/-!
Equality and hashes of formulas. Numbers of formulas are compared as doubles and hashed by
their bits, which is consistent only because every number in a formula is finite and has no
sign: formulas are then equal exactly if they have the same texts token by token, and exactly
if the same data are hashed for them.
-/

namespace Reckon

namespace Number

theorem isFinite_of_unsigned {value : Float} (finite : magnitude value < infinite)
    (unsigned : isNegative value = false) : value.isFinite = true ∧ value.isNaN = false := by
  have ofUnpacked : value.isFinite = value.toModel.unpack.isFinite ∧
      value.isNaN = value.toModel.unpack.isNaN := ⟨rfl, rfl⟩
  rw [ofUnpacked.1, ofUnpacked.2]
  rcases unpack_of_unsigned finite unsigned with zero | ⟨_, _, _, number⟩
  · rw [zero]
    exact ⟨rfl, rfl⟩
  · rw [number]
    exact ⟨rfl, rfl⟩

end Number

namespace Token

theorem toBits_injective : Function.Injective Float.toBits := by
  intro left right same
  rw [← Float.ofBits_toBits left, same, Float.ofBits_toBits]

private theorem symbol_injective :
    Function.Injective fun op : Operator => op.symbol.toNat.toUInt64 := by
  intro left right
  cases left <;> cases right <;> decide

theorem hashKey_injective : Function.Injective hashKey := by
  intro left right same
  cases left with
  | leftParen => cases right <;> simp_all [hashKey]
  | rightParen => cases right <;> simp_all [hashKey]
  | operator op =>
      cases right with
      | operator other =>
          have sameSymbol : op.symbol.toNat.toUInt64 = other.symbol.toNat.toUInt64 := by
            simpa [hashKey] using same
          rw [symbol_injective sameSymbol]
      | _ => simp [hashKey] at same
  | number value =>
      cases right with
      | number other =>
          have sameBits : value.toBits = other.toBits := by simpa [hashKey] using same
          rw [toBits_injective sameBits]
      | _ => simp [hashKey] at same
  | name text => cases right <;> simp_all [hashKey]

end Token

namespace Formula

variable {rules otherRules : NameRules} {input otherInput : String} {formula other : Formula}

theorem finite_of_mem_tokens (read : ofText rules input = .ok formula) {value : Float}
    (listed : Token.number value ∈ formula.tokens) :
    value.isFinite = true ∧ value.isNaN = false ∧ Number.isNegative value = false := by
  obtain ⟨finite, unsigned⟩ := readable_of_ofText read _ listed
  obtain ⟨isFinite, number⟩ := Number.isFinite_of_unsigned finite unsigned
  exact ⟨isFinite, number, unsigned⟩

theorem alike_iff_eq_of_ofText (read : ofText rules input = .ok formula)
    (otherRead : ofText otherRules otherInput = .ok other) :
    formula.alike other = true ↔ formula = other :=
  alike_iff_eq (readable_of_ofText read) (readable_of_ofText otherRead)

theorem texts_eq_iff_eq (read : ofText rules input = .ok formula)
    (otherRead : ofText otherRules otherInput = .ok other) :
    formula.tokens.map Token.text = other.tokens.map Token.text ↔ formula = other := by
  constructor
  · intro sameTexts
    exact (text_eq_iff_eq read otherRead).1 (congrArg String.join sameTexts)
  · rintro rfl
    rfl

theorem hashKeys_eq_iff_eq :
    formula.tokens.map Token.hashKey = other.tokens.map Token.hashKey ↔ formula = other := by
  rw [(List.map_injective_iff.2 Token.hashKey_injective).eq_iff]
  constructor
  · intro sameTokens
    cases formula
    exact congrArg mk sameTokens
  · exact congrArg tokens

/-- Numbers in formulas are finite and without a sign. So a formula is equal to itself,
formulas are equal exactly if they have as many tokens with the same texts one by one, and
equal formulas, and only those, have the same data hashed. -/
theorem alike_iff_texts_eq_and_hashes_eq (read : ofText rules input = .ok formula)
    (otherRead : ofText otherRules otherInput = .ok other) :
    (∀ value, Token.number value ∈ formula.tokens →
      value.isFinite = true ∧ value.isNaN = false ∧ Number.isNegative value = false) ∧
    formula.alike formula = true ∧
    (formula.alike other = true ↔
      formula.tokens.map Token.text = other.tokens.map Token.text) ∧
    (formula.alike other = true ↔
      formula.tokens.map Token.hashKey = other.tokens.map Token.hashKey) ∧
    (formula.alike other = true → formula.hashCode = other.hashCode) := by
  have alike : formula.alike other = true ↔ formula = other :=
    alike_iff_eq_of_ofText read otherRead
  refine ⟨fun value listed => finite_of_mem_tokens read listed, ?_, ?_, ?_, ?_⟩
  · exact (alike_iff_eq_of_ofText read read).2 rfl
  · rw [alike, texts_eq_iff_eq read otherRead]
  · rw [alike, hashKeys_eq_iff_eq]
  · intro same
    rw [alike.1 same]

/-- The same product with its factors the other way round is another formula. -/
theorem alike_iff_texts_eq_and_hashes_eq_of_product :
    let upper : NameRules := ⟨Text.upper, fun _ => true⟩
    let formula : Formula := ⟨[.number 15, .operator .mul, .name "X"]⟩
    let other : Formula := ⟨[.name "X", .operator .mul, .number 15]⟩
    ofText upper "1.50e1*x" = .ok formula ∧ ofText .free "X * 15." = .ok other ∧
      (15 : Float).isFinite = true ∧ Number.isNegative 15 = false ∧
      formula.alike formula = true ∧
      (formula.alike other = true ↔
        formula.tokens.map Token.text = other.tokens.map Token.text) ∧
      (formula.alike other = true ↔
        formula.tokens.map Token.hashKey = other.tokens.map Token.hashKey) ∧
      formula.alike other = false := by
  intro upper formula other
  have read : ofText upper "1.50e1*x" = .ok formula := by
    rw [← toOption_eq_some]
    decide +kernel
  have otherRead : ofText .free "X * 15." = .ok other := by
    rw [← toOption_eq_some]
    decide +kernel
  obtain ⟨numbers, itself, byTexts, byHashes, _⟩ :=
    alike_iff_texts_eq_and_hashes_eq read otherRead
  obtain ⟨finite, _, unsigned⟩ := numbers 15 List.mem_cons_self
  exact ⟨read, otherRead, finite, unsigned, itself, byTexts, byHashes, by decide⟩

end Formula

end Reckon
