import Reckon.Proofs.FormulaText
import Reckon.Shell.Command

/-!
Lines of commands. A line is cut at the blanks after its first word, and for a cell that is
set once more at the first blank after the cell. What follows then is taken as it stands,
with all of its blanks, except that no line end stays at its end.
-/

namespace Reckon

namespace Command

open Text

/-- What is entered by a line, where the text stands at the end of the line. -/
def entered (text : String) : String :=
  String.ofList (dropTrailing isLineEnd text.toList)

theorem entered_eq_self_iff {text : String} :
    entered text = text ↔ ∀ last ∈ text.toList.getLast?, last ≠ '\r' ∧ last ≠ '\n' := by
  rw [entered, ← String.toList_inj, String.toList_ofList, dropTrailing_eq_self_iff]
  simp [isLineEnd]

section

variable {blanks word rest : List Char} {blank : Char}

private theorem solid_of_all_isNamePart (parts : word.all isNamePart = true) :
    ∀ character ∈ word, isBlank character = false := fun character listed =>
  isBlank_of_isNamePart (List.all_eq_true.1 parts character listed)

theorem cutAtBlank_of_word
    (solid : ∀ character ∈ word, isBlank character = false) (white : isBlank blank = true)
    (rest : List Char) : cutAtBlank (word ++ blank :: rest) = some (word, rest) :=
  cutAtBlank_eq_some_iff.2 ⟨blank, white, solid, rfl⟩

theorem dropBlank_word
    (leading : ∀ character ∈ blanks, isBlank character = true) (something : word ≠ [])
    (solid : ∀ character ∈ word, isBlank character = false) (rest : List Char) :
    dropBlank (blanks ++ (word ++ rest)) = word ++ rest := by
  apply Text.dropBlank_append leading
  intro next isNext
  cases word with
  | nil => exact absurd rfl something
  | cons first others =>
      obtain rfl : first = next := by simpa using isNext
      exact solid first List.mem_cons_self

theorem splitWord_of_word
    (leading : ∀ character ∈ blanks, isBlank character = true) (something : word ≠ [])
    (solid : ∀ character ∈ word, isBlank character = false) (white : isBlank blank = true)
    (rest : List Char) :
    splitWord (blanks ++ (word ++ blank :: rest)) = (word, dropBlank rest) := by
  rw [splitWord, dropBlank_word leading something solid, cutAtBlank_of_word solid white]

private theorem splitWord_of_argument
    {argument : List Char} (letters : word ≠ []) (parts : word.all isNamePart = true)
    (something : argument ≠ []) (solid : ∀ character ∈ argument, isBlank character = false)
    (rest : List Char) :
    splitWord (word ++ ' ' :: (argument ++ rest)) = (word, argument ++ rest) := by
  have none : ∀ character ∈ ([] : List Char), isBlank character = true := by simp
  have solidWord := solid_of_all_isNamePart parts
  calc
    splitWord (word ++ ' ' :: (argument ++ rest)) = (word, dropBlank (argument ++ rest)) :=
      splitWord_of_word none letters solidWord (by decide) (argument ++ rest)
    _ = (word, argument ++ rest) :=
      congrArg (word, ·) (dropBlank_word none something solid rest)

private theorem setArguments_of_cell
    {cell : String} (something : cell ≠ "")
    (solid : ∀ character ∈ cell.toList, isBlank character = false)
    (white : isBlank blank = true) (text : String) :
    setArguments (cell.toList ++ blank :: text.toList) = .ok (.set cell (entered text)) := by
  have nonempty : cell.toList ≠ [] := by simpa using something
  rw [setArguments, cutAtBlank_of_word solid white]
  dsimp only
  rw [if_neg nonempty, String.ofList_toList, entered]

private theorem argument_of_solid
    {text : String} (something : text ≠ "")
    (solid : ∀ character ∈ text.toList, isBlank character = false) (word : String) :
    argument word text.toList = .ok text := by
  have nonempty : text.toList ≠ [] := by simpa using something
  rw [argument, trimBlank_of_solid solid, if_neg nonempty, String.ofList_toList]

end

section

variable {cell : String}

theorem ofLine_set
    (something : cell ≠ "") (solid : ∀ character ∈ cell.toList, isBlank character = false)
    (text : String) :
    ofLine ("set " ++ cell ++ " " ++ text) = .ok (.set cell (entered text)) := by
  have spelled : ("set " ++ cell ++ " " ++ text).toList =
      ['s', 'e', 't'] ++ ' ' :: (cell.toList ++ ' ' :: text.toList) := by
    simp
  rw [ofLine, spelled, splitWord_of_argument (by simp) (by decide) (by simpa) solid]
  exact setArguments_of_cell something solid (by decide) text

theorem ofLine_contents
    (something : cell ≠ "") (solid : ∀ character ∈ cell.toList, isBlank character = false) :
    ofLine ("contents " ++ cell) = .ok (.contents cell) := by
  have spelled : ("contents " ++ cell).toList =
      "contents".toList ++ ' ' :: (cell.toList ++ []) := by
    simp
  rw [ofLine, spelled, splitWord_of_argument (by simp) (by decide) (by simpa) solid,
    List.append_nil]
  exact congrArg (Except.map Command.contents) (argument_of_solid something solid "contents")

end

end Command

end Reckon
