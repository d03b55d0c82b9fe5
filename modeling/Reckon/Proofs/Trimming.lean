import Mathlib.Data.List.Basic
import Mathlib.Data.List.TakeWhile
import Reckon.Text.Blank

/-!
What trimming leaves. A trimmed text is known from where it stands in the whole: whatever is
left begins, or ends, with a character that stays, and all that is around it goes.
-/

namespace Reckon.Text

/-! ## At one end -/

/-- The elements up to the first one that fails a test are left out exactly if they all pass
it. -/
theorem dropWhile_eq_iff {drop : Char → Bool} {text kept : List Char} :
    text.dropWhile drop = kept ↔
      (∀ first ∈ kept.head?, drop first = false) ∧
        ∃ front, (∀ character ∈ front, drop character = true) ∧ text = front ++ kept := by
  constructor
  · rintro rfl
    refine ⟨fun first isFirst => ?_, text.takeWhile drop, ?_, ?_⟩
    · have stops := List.head?_dropWhile_not drop text
      rwa [Option.mem_def.1 isFirst] at stops
    · exact fun character listed => List.mem_takeWhile_imp listed
    · exact List.takeWhile_append_dropWhile.symm
  · rintro ⟨stops, front, dropped, rfl⟩
    rw [List.dropWhile_append_of_pos dropped]
    cases kept with
    | nil => rfl
    | cons first rest => exact List.dropWhile_cons_of_neg (by simp [stops first rfl])

theorem dropBlank_eq_iff {text kept : List Char} :
    dropBlank text = kept ↔
      (∀ first ∈ kept.head?, isBlank first = false) ∧
        ∃ leading, (∀ character ∈ leading, isBlank character = true) ∧
          text = leading ++ kept :=
  dropWhile_eq_iff

theorem dropBlank_append {blanks rest : List Char}
    (blank : ∀ character ∈ blanks, isBlank character = true)
    (solid : ∀ next ∈ rest.head?, isBlank next = false) : dropBlank (blanks ++ rest) = rest :=
  dropBlank_eq_iff.2 ⟨solid, blanks, blank, rfl⟩

theorem dropBlank_eq_self {text : List Char}
    (solid : ∀ first ∈ text.head?, isBlank first = false) : dropBlank text = text :=
  dropBlank_eq_iff.2 ⟨solid, [], by simp, rfl⟩

theorem dropTrailing_eq_iff {drop : Char → Bool} {text kept : List Char} :
    dropTrailing drop text = kept ↔
      (∀ last ∈ kept.getLast?, drop last = false) ∧
        ∃ trailing, (∀ character ∈ trailing, drop character = true) ∧
          text = kept ++ trailing := by
  rw [dropTrailing, List.reverse_eq_iff, dropWhile_eq_iff, List.head?_reverse]
  refine and_congr_right fun _ => ⟨?_, ?_⟩
  · rintro ⟨front, dropped, reversed⟩
    refine ⟨front.reverse, fun character listed => ?_, ?_⟩
    · exact dropped character (List.mem_reverse.1 listed)
    · rw [← List.reverse_inj, reversed, List.reverse_append, List.reverse_reverse]
  · rintro ⟨trailing, dropped, rfl⟩
    refine ⟨trailing.reverse, fun character listed => ?_, List.reverse_append⟩
    exact dropped character (List.mem_reverse.1 listed)

theorem dropTrailing_eq_self_iff {drop : Char → Bool} {text : List Char} :
    dropTrailing drop text = text ↔ ∀ last ∈ text.getLast?, drop last = false := by
  rw [dropTrailing_eq_iff, and_iff_left_iff_imp]
  exact fun _ => ⟨[], by simp, (List.append_nil text).symm⟩

theorem dropTrailing_blank_of_solid {text : List Char}
    (solid : ∀ character ∈ text, isBlank character = false) :
    dropTrailing isBlank text = text :=
  dropTrailing_eq_self_iff.2 fun last atEnd => solid last (List.mem_of_getLast? atEnd)

theorem cutAtBlank_eq_none_iff {text : List Char} :
    cutAtBlank text = none ↔ ∀ character ∈ text, isBlank character = false := by
  induction text with
  | nil => simp [cutAtBlank]
  | cons first rest inductionHypothesis =>
      by_cases blank : isBlank first = true
      · simp [cutAtBlank, blank]
      · simp [cutAtBlank, blank, inductionHypothesis]

/-! ## At both ends -/

/-- Something without a blank at either end. -/
structure IsPhrase (text : List Char) : Prop where
  something : text ≠ []
  starts : ∀ first ∈ text.head?, isBlank first = false
  ends : ∀ last ∈ text.getLast?, isBlank last = false

section

variable {text kept : List Char}

theorem trimBlank_dropBlank (text : List Char) : trimBlank (dropBlank text) = trimBlank text := by
  have starts := (dropBlank_eq_iff.1 (Eq.refl (dropBlank text))).1
  rw [trimBlank, dropBlank_eq_self starts, trimBlank]

theorem trimBlank_of_solid (solid : ∀ character ∈ text, isBlank character = false) :
    trimBlank text = text := by
  have starts : ∀ first ∈ text.head?, isBlank first = false := fun first isFirst =>
    solid first (List.mem_of_mem_head? isFirst)
  rw [trimBlank, dropBlank_eq_self starts, dropTrailing_blank_of_solid solid]

theorem trimBlank_eq_nil_iff :
    trimBlank text = [] ↔ ∀ character ∈ text, isBlank character = true := by
  rw [trimBlank, dropTrailing_eq_iff]
  constructor
  · rintro ⟨_, trailing, blankTrailing, split⟩
    obtain ⟨_, leading, blankLeading, spelled⟩ := dropBlank_eq_iff.1 split
    rw [spelled, List.nil_append]
    exact List.forall_mem_append.2 ⟨blankLeading, blankTrailing⟩
  · intro blank
    have nothing : dropBlank text = [] := dropBlank_eq_iff.2 ⟨by simp, text, blank, by simp⟩
    exact ⟨by simp, [], by simp, nothing⟩

/-- A text is trimmed to a phrase exactly if it is the phrase with blanks around it. -/
theorem trimBlank_eq_iff_of_ne_nil (something : kept ≠ []) :
    trimBlank text = kept ↔
      IsPhrase kept ∧ ∃ leading trailing, (∀ character ∈ leading, isBlank character = true) ∧
        (∀ character ∈ trailing, isBlank character = true) ∧
          text = leading ++ (kept ++ trailing) := by
  rw [trimBlank, dropTrailing_eq_iff]
  constructor
  · rintro ⟨ends, trailing, blankTrailing, split⟩
    obtain ⟨starts, leading, blankLeading, spelled⟩ := dropBlank_eq_iff.1 split
    have startsKept : ∀ first ∈ kept.head?, isBlank first = false := fun first isFirst =>
      starts first (List.mem_head?_append_of_mem_head? isFirst)
    exact ⟨⟨something, startsKept, ends⟩, leading, trailing, blankLeading, blankTrailing, spelled⟩
  · rintro ⟨phrase, leading, trailing, blankLeading, blankTrailing, spelled⟩
    refine ⟨phrase.ends, trailing, blankTrailing, ?_⟩
    refine dropBlank_eq_iff.2 ⟨fun first isFirst => ?_, leading, blankLeading, spelled⟩
    rw [List.head?_append_of_ne_nil _ something] at isFirst
    exact phrase.starts first isFirst

/-- Trimming leaves a first character that is not blank where it is. -/
theorem exists_trimBlank_eq_cons {first : Char} (solid : isBlank first = false)
    (rest : List Char) : ∃ others, trimBlank (first :: rest) = first :: others := by
  obtain ⟨_, trailing, blank, split⟩ :=
    dropTrailing_eq_iff.1 (Eq.refl (trimBlank (first :: rest)))
  rw [dropBlank_eq_self (by simpa using solid)] at split
  cases trimmed : trimBlank (first :: rest) with
  | nil =>
      rw [trimmed, List.nil_append] at split
      have white := blank first (split ▸ List.mem_cons_self)
      exact Bool.noConfusion (solid.symm.trans white)
  | cons other others =>
      rw [trimmed, List.cons_append] at split
      injection split with sameFirst _
      exact ⟨others, congrArg (· :: others) sameFirst.symm⟩

end

end Reckon.Text
