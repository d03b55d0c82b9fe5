import Mathlib
import Reckon.Number.Reading
import Reckon.Number.Written
import Reckon.Proofs.Numerals
import Reckon.Proofs.Rounding

/-!
The written form of a double reads back. Plain notation is a numeral without an
exponent, which denotes the decimal that is written; what follows it may be anything
that does not go on with a numeral.
-/

namespace Reckon.Number

-- Powers of natural numbers are those of the core library, whatever else is imported.
attribute [local instance (high)] instPowNat

/-! ## The bits of a double -/

/-- A double is that of its sign and its magnitude. -/
theorem signed_magnitude (value : Float) : signed (isNegative value) (magnitude value) = value := by
  have bound : value.toBits.toNat < 2 ^ (64 : Nat) := value.toBits.toNat_lt
  have bits : (if isNegative value then 2 ^ (63 : Nat) else 0) + magnitude value =
      value.toBits.toNat := by
    unfold isNegative magnitude
    split
    · next negative =>
        have large := of_decide_eq_true negative
        omega
    · next positive =>
        have small : ¬ 2 ^ (63 : Nat) ≤ value.toBits.toNat := fun large =>
          positive (decide_eq_true large)
        omega
  unfold signed
  rw [bits, UInt64.ofNat_toNat, Float.ofBits_toBits]

open Float.Model Float.Model.UnpackedFloat in
private theorem unpackExponent_ne_of_ordinary {bits : UInt64}
    (ordinary : bits.toNat / 2 ^ (52 : Nat) % 2 ^ (11 : Nat) ≠ 2047) :
    @unpackExponent Format.binary64 bits.toBitVec ≠ -1#11 := by
  intro same
  apply ordinary
  have asNumbers := congrArg BitVec.toNat same
  rw [unpackExponent_def, BitVec.extractLsb'_toNat, Nat.shiftRight_eq_div_pow] at asNumbers
  exact asNumbers

open Float.Model Float.Model.UnpackedFloat in
private theorem pack_unpack_of_ordinary {bits : UInt64}
    (ordinary : bits.toNat / 2 ^ (52 : Nat) % 2 ^ (11 : Nat) ≠ 2047) :
    pack Format.binary64 (unpack Format.binary64 bits.toBitVec) = bits.toBitVec := by
  have number : @isNaNBits Format.binary64 bits.toBitVec = false :=
    decide_eq_false fun both => unpackExponent_ne_of_ordinary ordinary both.1
  have packed := @pack_unpack Format.binary64 bits.toBitVec (by decide)
  rw [number] at packed
  exact packed

/-- Bits whose exponent is not that of infinities and of what is no number stay as they
are. -/
theorem toBits_ofBits {bits : UInt64}
    (ordinary : bits.toNat / 2 ^ (52 : Nat) % 2 ^ (11 : Nat) ≠ 2047) :
    (Float.ofBits bits).toBits = bits :=
  congrArg UInt64.ofBitVec (pack_unpack_of_ordinary ordinary)

/-- A sign and a finite magnitude are the bits of their double. -/
theorem toBits_signed {magnitude : Nat} (negative : Bool) (finite : magnitude < infinite) :
    (signed negative magnitude).toBits.toNat =
      (if negative then 2 ^ (63 : Nat) else 0) + magnitude := by
  have bound : (if negative then 2 ^ (63 : Nat) else 0) + magnitude < 2 ^ (64 : Nat) := by
    unfold infinite at finite
    split <;> omega
  have asNumber : (UInt64.ofNat ((if negative then 2 ^ (63 : Nat) else 0) + magnitude)).toNat =
      (if negative then 2 ^ (63 : Nat) else 0) + magnitude := UInt64.toNat_ofNat_of_lt bound
  rw [signed, toBits_ofBits, asNumber]
  rw [asNumber]
  unfold infinite at finite
  split <;> omega

theorem magnitude_signed {magnitude : Nat} (negative : Bool) (finite : magnitude < infinite) :
    Number.magnitude (signed negative magnitude) = magnitude := by
  rw [Number.magnitude, toBits_signed negative finite]
  unfold infinite at finite
  split
  · omega
  · omega

theorem isNegative_signed {magnitude : Nat} (negative : Bool) (finite : magnitude < infinite) :
    isNegative (signed negative magnitude) = negative := by
  rw [isNegative, toBits_signed negative finite]
  unfold infinite at finite
  cases negative with
  | true => simp
  | false =>
      simp
      omega

/-! ## Equal doubles -/

private theorem ordinary_of_finite {value : Float} (finite : magnitude value < infinite) :
    value.toBits.toNat / 2 ^ (52 : Nat) % 2 ^ (11 : Nat) ≠ 2047 := by
  unfold magnitude infinite at finite
  omega

private theorem eq_of_unpack_eq {left right : Float} (finite : magnitude left < infinite)
    (otherFinite : magnitude right < infinite)
    (same : left.toModel.unpack = right.toModel.unpack) : left = right := by
  have packed := pack_unpack_of_ordinary (ordinary_of_finite finite)
  have otherPacked := pack_unpack_of_ordinary (ordinary_of_finite otherFinite)
  have sameBits : left.toBits = right.toBits := by
    apply UInt64.toBitVec_inj.1
    rw [← packed, ← otherPacked]
    exact congrArg _ same
  rw [← Float.ofBits_toBits left, sameBits, Float.ofBits_toBits]

open Float.Model Float.Model.UnpackedFloat in
/-- A finite double without a sign is zero or a positive number. -/
theorem unpack_of_unsigned {value : Float} (finite : magnitude value < infinite)
    (unsigned : isNegative value = false) :
    value.toModel.unpack = .zero .positive ∨
      ∃ mantissa exponent positive,
        value.toModel.unpack = .finite .positive mantissa exponent positive := by
  have exponent := unpackExponent_ne_of_ordinary (ordinary_of_finite finite)
  have noSign : @unpackSign Format.binary64 value.toBits.toBitVec = 0#1 := by
    have small : value.toBits.toNat < 2 ^ (63 : Nat) := by simpa [isNegative] using unsigned
    apply BitVec.eq_of_toNat_eq
    rw [unpackSign_def, BitVec.extractLsb'_toNat, Nat.shiftRight_eq_div_pow]
    change value.toBits.toNat / 2 ^ (63 : Nat) % 2 ^ (1 : Nat) = 0
    omega
  generalize read : value.toModel.unpack = unpacked
  change UnpackedFloat.unpack Format.binary64 value.toBits.toBitVec = unpacked at read
  rw [UnpackedFloat.unpack, noSign] at read
  dsimp only at read
  rw [if_neg exponent] at read
  split at read
  · split at read
    · exact Or.inl read.symm
    · exact Or.inr ⟨_, _, _, read.symm⟩
  · exact Or.inr ⟨_, _, _, read.symm⟩

/-- Finite doubles without signs are equal as numbers exactly if they are the same. -/
theorem beq_iff_eq_of_unsigned {left right : Float} (finite : magnitude left < infinite)
    (unsigned : isNegative left = false) (otherFinite : magnitude right < infinite)
    (otherUnsigned : isNegative right = false) :
    (left == right) = true ↔ left = right := by
  have compared : (left == right) =
      (left.toModel.unpack.compare right.toModel.unpack == some .eq) := rfl
  have leftKind := unpack_of_unsigned finite unsigned
  have rightKind := unpack_of_unsigned otherFinite otherUnsigned
  rw [compared, beq_iff_eq]
  constructor
  · intro equal
    apply eq_of_unpack_eq finite otherFinite
    rcases leftKind with leftZero | ⟨mantissa, exponent, positive, leftNumber⟩
    · rcases rightKind with rightZero | ⟨otherMantissa, otherExponent, otherPositive, rightNumber⟩
      · rw [leftZero, rightZero]
      · rw [leftZero, rightNumber] at equal
        cases equal
    · rcases rightKind with rightZero | ⟨otherMantissa, otherExponent, otherPositive, rightNumber⟩
      · rw [leftNumber, rightZero] at equal
        cases equal
      · rw [leftNumber, rightNumber] at equal ⊢
        have parts : exponent = otherExponent ∧ mantissa = otherMantissa := by
          simpa [Float.Model.UnpackedFloat.compare] using equal
        obtain ⟨sameExponent, sameMantissa⟩ := parts
        subst sameExponent sameMantissa
        rfl
  · intro same
    subst same
    rcases leftKind with zero | ⟨mantissa, exponent, positive, number⟩
    · rw [zero]
      rfl
    · rw [number]
      simp [Float.Model.UnpackedFloat.compare]

/-! ## Numerals in plain notation -/

theorem isDigit_eq_isDigit (character : Char) : isDigit character = character.isDigit := rfl

namespace Numeral

/-- The numeral has a digit before the point, if there is one, and no exponent. -/
structure Plain (numeral : Numeral) : Prop where
  whole : numeral.whole ≠ []
  wholeDigits : ∀ character ∈ numeral.whole, isDigit character = true
  fractionDigits : ∀ character ∈ numeral.fractionDigits, isDigit character = true
  bare : numeral.exponent = none

theorem Plain.formed {numeral : Numeral} (plain : numeral.Plain) : numeral.Formed where
  whole := plain.wholeDigits
  fraction := plain.fractionDigits
  visible := by simp [plain.whole]
  exponent := by simp [plain.bare]

end Numeral

/-! ## What plain notation denotes -/

private theorem digitsValue_digitChars (number : Nat) : digitsValue (digitChars number) = number :=
  Nat.ofDigitChars_ten_toDigits

private theorem isDigit_of_mem_digitChars
    {number : Nat} {character : Char} (listed : character ∈ digitChars number) :
    isDigit character = true :=
  Nat.isDigit_of_mem_toDigits (by norm_num) (by norm_num) listed

private theorem isDigit_of_mem_replicate
    {count : Nat} {character : Char} (listed : character ∈ List.replicate count '0') :
    isDigit character = true := by
  rw [List.eq_of_mem_replicate listed]
  rfl

private theorem digitsValue_append_replicate (digits : List Char) (count : Nat) :
    digitsValue (digits ++ List.replicate count '0') = digitsValue digits * 10 ^ count := by
  rw [digitsValue, Nat.ofDigitChars_append, Nat.ofDigitChars_replicate_zero, Nat.mul_comm,
    digitsValue]

private theorem digitsValue_replicate_append (count : Nat) (digits : List Char) :
    digitsValue (List.replicate count '0' ++ digits) = digitsValue digits := by
  rw [digitsValue, Nat.ofDigitChars_append, Nat.ofDigitChars_replicate_zero, Nat.mul_zero,
    digitsValue]

namespace Decimal

/-- A decimal in plain notation is a numeral that denotes the same number. -/
theorem exists_numeral_plain (decimal : Decimal) :
    ∃ numeral : Numeral, numeral.Plain ∧ numeral.text = decimal.plain ∧
      numeral.decimal.value = decimal.value := by
  have digits := fun character =>
    @isDigit_of_mem_digitChars decimal.digits character
  unfold plain
  dsimp only
  split
  · next integer =>
      refine ⟨⟨digitChars decimal.digits ++ List.replicate decimal.exponent.toNat '0',
        none, none⟩, ⟨?_, ?_, by simp [Numeral.fractionDigits], rfl⟩, ?_, ?_⟩
      · simp [digitChars]
      · intro character listed
        exact (List.mem_append.1 listed).elim (digits character) isDigit_of_mem_replicate
      · simp [Numeral.text]
      · have sameExponent : (decimal.exponent.toNat : Int) = decimal.exponent :=
          Int.toNat_of_nonneg integer
        simp only [Numeral.decimal, Numeral.fractionDigits, Numeral.exponentValue, value,
          Option.getD_none, List.append_nil, digitsValue_append_replicate,
          digitsValue_digitChars, List.length_nil]
        push_cast
        rw [← zpow_natCast, sameExponent]
        simp
  · next broken =>
      generalize placesEq : (-decimal.exponent).toNat = places
      have sameExponent : decimal.exponent = -(places : Int) := by omega
      split
      · next inside =>
          generalize splitEq : (digitChars decimal.digits).length - places = point
          have length : ((digitChars decimal.digits).drop point).length = places := by
            rw [List.length_drop]
            omega
          refine ⟨⟨(digitChars decimal.digits).take point,
            some ((digitChars decimal.digits).drop point), none⟩, ⟨?_, ?_, ?_, rfl⟩, ?_, ?_⟩
          · rw [Ne, ← List.length_eq_zero_iff, List.length_take]
            omega
          · exact fun character listed => digits character (List.mem_of_mem_take listed)
          · exact fun character listed => digits character (List.mem_of_mem_drop listed)
          · simp [Numeral.text]
          · simp only [Numeral.decimal, Numeral.fractionDigits, Numeral.exponentValue, value,
              Option.getD_some, List.take_append_drop, digitsValue_digitChars, length]
            rw [sameExponent, Int.zero_sub]
      · next outside =>
          have length : (List.replicate (places - (digitChars decimal.digits).length) '0' ++
              digitChars decimal.digits).length = places := by
            rw [List.length_append, List.length_replicate]
            omega
          refine ⟨⟨['0'], some (List.replicate (places - (digitChars decimal.digits).length) '0' ++
            digitChars decimal.digits), none⟩, ⟨by simp, ?_, ?_, rfl⟩, ?_, ?_⟩
          · intro character listed
            rw [List.mem_singleton.1 listed]
            rfl
          · intro character listed
            exact (List.mem_append.1 listed).elim isDigit_of_mem_replicate (digits character)
          · simp [Numeral.text]
          · have zeros := digitsValue_replicate_append 1
            simp only [List.replicate_one] at zeros
            simp only [Numeral.decimal, Numeral.fractionDigits, Numeral.exponentValue, value,
              Option.getD_some, zeros, digitsValue_replicate_append, digitsValue_digitChars, length]
            rw [sameExponent, Int.zero_sub]

end Decimal

/-! ## The text of a double -/

/-- A finite double is written as its sign and a numeral that denotes a number to which
it is nearest. -/
theorem exists_numeral_plainText {value : Float} (finite : magnitude value < infinite) :
    ∃ numeral : Numeral, numeral.Plain ∧
      (plainText value).toList = (if isNegative value then ['-'] else []) ++ numeral.text ∧
        numeral.decimal.magnitude = magnitude value := by
  obtain ⟨numeral, plain, text, same⟩ :=
    Decimal.exists_numeral_plain (Decimal.shortest .up (magnitude value))
  refine ⟨numeral, plain, ?_, ?_⟩
  · unfold plainText writeWith
    dsimp only
    rw [String.toList_ofList, if_neg (Nat.lt_asymm finite), if_neg finite.ne, text]
  · rw [Decimal.magnitude_eq_of_value_eq same, Decimal.magnitude_shortest .up finite.le]

private theorem Decimal.magnitude_le_infinite (decimal : Decimal) :
    decimal.magnitude ≤ infinite := by
  unfold Decimal.magnitude
  split
  · exact Nat.zero_le _
  · split
    · exact Nat.le_refl _
    · split
      · exact Nat.zero_le _
      · exact Nat.min_le_left _ _

/-- The double of a decimal has the magnitude of the decimal, be it finite or not. -/
theorem magnitude_toFloat (decimal : Decimal) :
    magnitude (decimal.toFloat false) = decimal.magnitude := by
  rcases Nat.lt_or_eq_of_le decimal.magnitude_le_infinite with finite | tooLarge
  · exact magnitude_signed false finite
  · rw [Decimal.toFloat, tooLarge]
    decide +kernel

private theorem toFloat_of_magnitude_eq
    {decimal : Decimal} {value : Float} (same : decimal.magnitude = magnitude value) :
    decimal.toFloat (isNegative value) = value := by
  rw [Decimal.toFloat, same, signed_magnitude]

private theorem toLower_of_isDigit {character : Char} (digit : isDigit character = true) :
    character.toLower = character := by
  have small : character.val ≤ '9'.val := by
    simp only [isDigit, Bool.and_eq_true, decide_eq_true_eq] at digit
    exact digit.2
  unfold Char.toLower
  rw [dif_neg]
  intro upper
  exact absurd (UInt32.le_trans upper.1 small) (by decide)

/-- A text that begins with neither of two letters is none of the words that stand for
doubles without a numeral. -/
theorem readUnsigned_cons
    {first : Char} (notI : first.toLower ≠ 'i') (notN : first.toLower ≠ 'n')
    (negative : Bool) (rest : List Char) :
    readUnsigned negative (first :: rest) =
      match Numeral.scan (first :: rest) with
      | some (numeral, []) => some (numeral.decimal.toFloat negative)
      | _ => none := by
  have noWord : ∀ (letter : Char) (letters : List Char), first.toLower ≠ letter →
      foldCase (first :: rest) ≠ letter :: letters := by
    intro letter letters different same
    injection same with sameLetter _
    exact different sameLetter
  have noInfinity : ¬ (foldCase (first :: rest) = "inf".toList ∨
      foldCase (first :: rest) = "infinity".toList) :=
    fun word => word.elim (noWord 'i' _ notI) (noWord 'i' _ notI)
  have noNaN : foldCase (first :: rest) ≠ "nan".toList := noWord 'n' _ notN
  exact (if_neg noInfinity).trans (if_neg noNaN)

theorem Numeral.Formed.exists_text_eq_cons {numeral : Numeral} (formed : numeral.Formed) :
    ∃ first rest, numeral.text = first :: rest ∧ (isDigit first = true ∨ first = '.') := by
  obtain ⟨whole, fraction, exponent⟩ := numeral
  cases whole with
  | cons first others => exact ⟨first, _, rfl, Or.inl (formed.whole first List.mem_cons_self)⟩
  | nil =>
      cases fraction with
      | none => exact absurd rfl formed.visible
      | some digits => exact ⟨'.', _, rfl, Or.inr rfl⟩

/-- Every numeral denotes a double, although it may be an infinite one. -/
theorem readUnsigned_of_formed
    {numeral : Numeral} (formed : numeral.Formed) (negative : Bool) :
    readUnsigned negative numeral.text = some (numeral.decimal.toFloat negative) := by
  have scanned := formed.scan_text
  obtain ⟨first, rest, text, digitOrPoint⟩ := formed.exists_text_eq_cons
  have folded : first.toLower = first := by
    rcases digitOrPoint with digit | rfl
    · exact toLower_of_isDigit digit
    · rfl
  have different : ∀ letter, isDigit letter = false → letter ≠ '.' → first.toLower ≠ letter := by
    rintro letter noDigit noPoint rfl
    rw [folded] at noDigit noPoint
    rcases digitOrPoint with digit | point
    · exact Bool.noConfusion (noDigit.symm.trans digit)
    · exact noPoint point
  rw [text] at scanned ⊢
  rw [readUnsigned_cons (different 'i' rfl (by decide)) (different 'n' rfl (by decide)), scanned]

theorem read?_of_formed {numeral : Numeral} (formed : numeral.Formed) :
    read? numeral.text = some (numeral.decimal.toFloat false) := by
  have unsigned := readUnsigned_of_formed formed false
  obtain ⟨first, rest, text, digitOrPoint⟩ := formed.exists_text_eq_cons
  have noSign : ∀ sign, isDigit sign = false → sign ≠ '.' → first ≠ sign := by
    rintro sign noDigit noPoint rfl
    rcases digitOrPoint with digit | point
    · exact Bool.noConfusion (noDigit.symm.trans digit)
    · exact noPoint point
  rw [text] at unsigned ⊢
  unfold read?
  split
  · next plus => exact absurd (List.head_eq_of_cons_eq plus) (noSign '+' rfl (by decide))
  · next minus => exact absurd (List.head_eq_of_cons_eq minus) (noSign '-' rfl (by decide))
  · exact unsigned

/-- The written form of a finite double is read as this double, bit for bit. -/
theorem read?_plainText {value : Float} (finite : magnitude value < infinite) :
    read? (plainText value).toList = some value := by
  obtain ⟨numeral, plain, text, same⟩ := exists_numeral_plainText finite
  have double : numeral.decimal.toFloat (isNegative value) = value := toFloat_of_magnitude_eq same
  rw [text]
  cases negative : isNegative value with
  | true =>
      rw [negative] at double
      exact (readUnsigned_of_formed plain.formed true).trans (congrArg some double)
  | false =>
      rw [negative] at double
      rw [if_neg (by decide), List.nil_append, read?_of_formed plain.formed, double]

end Reckon.Number
