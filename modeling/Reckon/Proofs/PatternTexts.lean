import Mathlib.Data.List.Induction
import Reckon.Pattern.Basic

/-!
Texts that are patterns. Where a text is made of characters, sets of letters and digits,
repetitions, alternatives and groups, its height follows from how it is made, and it is a
pattern exactly if it is not too high. So any text at all can be looked for, by the pattern
that escapes its marks, and groups nest in each other up to the limit and no further.
-/

namespace Reckon.Pattern

/-! ## Regular patterns -/

/-- The characters that mean something else in a pattern, unless they are escaped. -/
def marks : List Char :=
  ['(', ')', '|', '[', '?', '*', '+', '\x7b', '\\', '.', '^', '$']

def escaped (character : Char) : List Char :=
  if character ∈ marks then ['\\', character] else [character]

/-- A number of letters, digits and ranges of them. -/
inductive Members : List Char → Nat → Prop where
  | none : Members [] 0
  | single {character : Char} {text : List Char} {count : Nat}
      (plain : character.isAlphanum = true) (others : Members text count) :
      Members (character :: text) (count + 1)
  | range {low high : Char} {text : List Char} {count : Nat}
      (plainLow : low.isAlphanum = true) (plainHigh : high.isAlphanum = true)
      (ordered : low.toNat ≤ high.toNat) (others : Members text count) :
      Members (low :: '-' :: high :: text) (count + 1)

/-- A text that is made from the left to the right, with the heights of the alternatives that
are complete and those of the items in the latest one, the latest first. -/
inductive Regular : List Char → List Nat → List Nat → Prop where
  | nothing : Regular [] [] []
  | character {text : List Char} {alternatives row : List Nat} (character : Char)
      (before : Regular text alternatives row) :
      Regular (text ++ escaped character) alternatives (0 :: row)
  | anyCharacter {text : List Char} {alternatives row : List Nat}
      (before : Regular text alternatives row) :
      Regular (text ++ ['.']) alternatives (0 :: row)
  | set {text members : List Char} {alternatives row : List Nat} {count : Nat}
      (before : Regular text alternatives row) (inside : Members members (count + 1)) :
      Regular (text ++ '[' :: (members ++ [']'])) alternatives
        ((1 + heightOf (List.replicate (count + 1) 0)) :: row)
  | repeated {text : List Char} {alternatives row : List Nat} {height : Nat} {sign : Char}
      (starOrPlus : sign = '*' ∨ sign = '+')
      (before : Regular text alternatives (height :: row)) :
      Regular (text ++ [sign]) alternatives ((1 + height) :: row)
  | alternative {text : List Char} {alternatives row : List Nat}
      (before : Regular text alternatives row) :
      Regular (text ++ ['|']) (heightOf row :: alternatives) []
  | group {text inner : List Char} {alternatives row innerAlternatives innerRow : List Nat}
      (before : Regular text alternatives row)
      (inside : Regular inner innerAlternatives innerRow) :
      Regular (text ++ '(' :: (inner ++ [')'])) alternatives
        ((1 + heightOf (heightOf innerRow :: innerAlternatives)) :: row)

/-! ## Sets -/

private theorem skip_initial (text : List Char) : skip .initial text = text :=
  rfl

section

variable {first : Char} (plain : first.isAlphanum = true)
include plain

private theorem ne_of_isAlphanum {mark : Char} (isMark : mark.isAlphanum = false) :
    first ≠ mark := by
  intro same
  rw [same, isMark] at plain
  cases plain

private theorem readMember_of_isAlphanum (rest : List Char) :
    readMember .initial (first :: rest) = some (.character first.toNat false, rest) := by
  unfold readMember
  split
  · next empty => cases empty
  · next same =>
      injection same with escape
      exact absurd escape (ne_of_isAlphanum plain (by decide))
  · next same =>
      injection same with sameFirst sameRest
      rw [sameFirst, sameRest]

private theorem readRange_single {next : Char} (apart : next ≠ '-') (rest : List Char) :
    readRange .initial (first :: next :: rest) = some (next :: rest) := by
  have fits : (Piece.character first.toNat false).fitsBrackets .initial = true := rfl
  rw [readRange, readMember_of_isAlphanum plain]
  simp only [Option.bind_eq_bind, Option.bind_some, skip_initial]
  rw [if_neg fun dash => apart dash.1, if_pos fits]

private theorem readRange_range {high : Char} (plainHigh : high.isAlphanum = true)
    (ordered : first.toNat ≤ high.toNat) (rest : List Char) :
    readRange .initial (first :: '-' :: high :: rest) = some rest := by
  have upcomes : upcoming .initial (high :: rest) = some high := rfl
  have makes : makesRange .initial (high :: rest) = true := by
    rw [makesRange, upcomes]
    simp [ne_of_isAlphanum plainHigh]
  rw [readRange, readMember_of_isAlphanum plain]
  simp only [Option.bind_eq_bind, Option.bind_some, skip_initial]
  rw [if_pos ⟨trivial, makes⟩, readMember_of_isAlphanum plainHigh]
  simp only [Option.bind_some]
  rw [if_pos ⟨rfl, rfl, ordered⟩]

private theorem readInside_of_isAlphanum (rest : List Char) :
    readInside .initial first rest =
      (readRange .initial (first :: rest)).map fun after => (.member, after) := by
  unfold readInside
  split
  · cases plain
  · cases plain
  · cases plain
  · cases plain
  · cases plain
  · rfl

private theorem readToken_of_isAlphanum (set : OpenSet) {rest after : List Char}
    (read : readRange .initial (first :: rest) = some after) :
    readToken .initial set (first :: rest) = some (.member, after) := by
  have notCaret : first ≠ '^' := ne_of_isAlphanum plain (by decide)
  have notHyphen : first ≠ '-' := ne_of_isAlphanum plain (by decide)
  have notBracket : first ≠ ']' := ne_of_isAlphanum plain (by decide)
  unfold readToken
  rw [skip_initial]
  dsimp only
  rw [if_neg fun caret => notCaret caret.2, if_neg fun hyphen => notHyphen hyphen.2,
    if_neg fun bracket => notBracket bracket.2.2, readInside_of_isAlphanum plain, read]
  rfl

end

private theorem readSet_closing {set : OpenSet} (inside : set.start = .inside)
    (rest : List Char) :
    readSet .initial [] set (']' :: rest) = some (1 + set.height, rest) := by
  have closing : readToken .initial set (']' :: rest) = some (.closing, rest) := by
    unfold readToken
    rw [skip_initial]
    simp [inside, readInside]
  rw [readSet]
  split <;> rename_i seen <;> rw [closing] at seen <;> cases seen
  rfl

private theorem readSet_member {set : OpenSet} {text after : List Char}
    (read : readToken .initial set text = some (.member, after)) :
    readSet .initial [] set text = readSet .initial [] (set.add .inside 0) after := by
  rw [readSet]
  split <;> rename_i seen <;> rw [read] at seen <;> cases seen
  rfl

private theorem Members.exists_next {text : List Char} {count : Nat}
    (members : Members text count) (rest : List Char) :
    ∃ next more, text ++ ']' :: rest = next :: more ∧ next ≠ '-' := by
  cases members with
  | none => exact ⟨']', rest, rfl, by decide⟩
  | single plain _ => exact ⟨_, _, rfl, ne_of_isAlphanum plain (by decide)⟩
  | range plain _ _ _ => exact ⟨_, _, rfl, ne_of_isAlphanum plain (by decide)⟩

private theorem replicate_append_cons (count : Nat) (heights : List Nat) :
    List.replicate count 0 ++ 0 :: heights = List.replicate (count + 1) 0 ++ heights := by
  rw [List.replicate_succ', List.append_assoc, List.singleton_append]

/-- A set is read up to its bracket, and its members have no height. -/
theorem Members.readSet_append {text : List Char} {count : Nat} (members : Members text count)
    (set : OpenSet) (started : set.start = .inside ∨ 0 < count) (rest : List Char) :
    readSet .initial [] set (text ++ ']' :: rest) =
      some (1 + { set with members := List.replicate count 0 ++ set.members }.height, rest) := by
  induction members generalizing set with
  | none =>
      have inside : set.start = .inside := by simpa using started
      exact readSet_closing inside rest
  | @single character text count plain others inductionHypothesis =>
      obtain ⟨next, more, split, apart⟩ := others.exists_next rest
      have read : readToken .initial set (character :: (text ++ ']' :: rest)) =
          some (.member, text ++ ']' :: rest) := by
        apply readToken_of_isAlphanum plain
        rw [split]
        exact readRange_single plain apart more
      rw [List.cons_append, readSet_member read, inductionHypothesis _ (Or.inl rfl)]
      simp only [OpenSet.add, replicate_append_cons]
      rfl
  | @range low high text count plainLow plainHigh ordered others inductionHypothesis =>
      have read : readToken .initial set (low :: '-' :: high :: (text ++ ']' :: rest)) =
          some (.member, text ++ ']' :: rest) :=
        readToken_of_isAlphanum plainLow set (readRange_range plainLow plainHigh ordered _)
      rw [List.cons_append, List.cons_append, List.cons_append, readSet_member read,
        inductionHypothesis _ (Or.inl rfl)]
      simp only [OpenSet.add, replicate_append_cons]
      rfl

/-! ## Whole patterns -/

namespace Progress

/-- A pattern, or a group in it, of which some alternatives are complete and some items of the
latest one are read. -/
def reading (around : List Scope) (names : List (List Char)) (alternatives row : List Nat) :
    Progress :=
  ⟨⟨.initial, alternatives, row.map fun height => ⟨height, true⟩⟩, around, names⟩

section

variable {around : List Scope} {names : List (List Char)} {alternatives row : List Nat}

private theorem heights_reading :
    (reading around names alternatives row).scope.heights = heightOf row :: alternatives := by
  have heights : (row.map fun height => Item.mk height true).map Item.height = row := by
    rw [List.map_map]
    exact List.map_id row
  rw [Scope.heights, reading, heights]

private theorem finish?_nil :
    (reading [] names alternatives row).finish? [] =
      some (heightOf (heightOf row :: alternatives)) := by
  rw [finish?]
  split
  · rw [Scope.height, heights_reading]
    rfl
  · next other => cases other

private theorem finish?_cons {next : Progress} {first : Char} {text rest : List Char}
    (stepped : (reading around names alternatives row).step first text = some (next, rest)) :
    (reading around names alternatives row).finish? (first :: text) = next.finish? rest := by
  rw [finish?]
  split
  · next other => cases other
  · next other =>
      cases other
      split
      · next failed =>
          rw [stepped] at failed
          cases failed
      · next found =>
          rw [stepped] at found
          cases found
          rfl

private theorem step_backslash {mark : Char} (marked : mark ∈ marks) (rest : List Char) :
    (reading around names alternatives row).step '\\' (mark :: rest) =
      some (reading around names alternatives (0 :: row), rest) := by
  simp only [marks, List.mem_cons, List.not_mem_nil, or_false] at marked
  rcases marked with same | same | same | same | same | same | same | same | same | same |
    same | same
  all_goals
    rw [same]
    rfl

private theorem step_character {character : Char} (unmarked : character ∉ marks)
    (rest : List Char) :
    (reading around names alternatives row).step character rest =
      some (reading around names alternatives (0 :: row), rest) := by
  unfold step
  dsimp only
  split
  all_goals first
    | exact absurd (by decide) unmarked
    | rfl

private theorem finish?_escaped (character : Char) (rest : List Char) :
    (reading around names alternatives row).finish? (escaped character ++ rest) =
      (reading around names alternatives (0 :: row)).finish? rest := by
  unfold escaped
  split
  · next marked => exact finish?_cons (step_backslash marked rest)
  · next unmarked => exact finish?_cons (step_character unmarked rest)

end

end Progress

namespace Regular

variable {text : List Char} {alternatives row : List Nat}

private theorem head?_escaped (character : Char) (rest : List Char) :
    (escaped character ++ rest).head? ≠ some '?' := by
  unfold escaped
  split
  · simp
  · next unmarked =>
      intro same
      injection same with question
      rw [question] at unmarked
      exact unmarked (by decide)

/-- A regular text does not begin with a question mark. -/
private theorem head?_append (regular : Regular text alternatives row) {rest : List Char}
    (apart : rest.head? ≠ some '?') : (text ++ rest).head? ≠ some '?' := by
  induction regular generalizing rest with
  | nothing => exact apart
  | character character before inductionHypothesis =>
      rw [List.append_assoc]
      exact inductionHypothesis (head?_escaped character rest)
  | anyCharacter before inductionHypothesis =>
      rw [List.append_assoc]
      exact inductionHypothesis (by simp)
  | set before inside inductionHypothesis =>
      rw [List.append_assoc]
      exact inductionHypothesis (by simp)
  | repeated starOrPlus before inductionHypothesis =>
      rw [List.append_assoc]
      apply inductionHypothesis
      rcases starOrPlus with star | plus
      · simp [star]
      · simp [plus]
  | alternative before inductionHypothesis =>
      rw [List.append_assoc]
      exact inductionHypothesis (by simp)
  | group before inside inductionHypothesis _ =>
      rw [List.append_assoc]
      exact inductionHypothesis (by simp)

private theorem step_set {members : List Char} {count : Nat} (inside : Members members (count + 1))
    (around : List Scope) (names : List (List Char)) (rest : List Char) :
    (Progress.reading around names alternatives row).step '[' (members ++ ']' :: rest) =
      some (Progress.reading around names alternatives
        ((1 + heightOf (List.replicate (count + 1) 0)) :: row), rest) := by
  have read := inside.readSet_append .empty (Or.inr (Nat.succ_pos count)) rest
  unfold Progress.step
  dsimp only
  rw [Progress.reading, read]
  simp only [OpenSet.empty, OpenSet.height, List.append_nil]
  rfl

private theorem step_repeated {sign : Char} (starOrPlus : sign = '*' ∨ sign = '+')
    {height : Nat} (around : List Scope) (names : List (List Char)) {rest : List Char}
    (apart : rest.head? ≠ some '?') :
    (Progress.reading around names alternatives (height :: row)).step sign rest =
      some (Progress.reading around names alternatives ((1 + height) :: row), rest) := by
  rcases starOrPlus with star | plus
  · rw [star, Progress.step]
    simp only [if_neg apart]
    rfl
  · rw [plus, Progress.step]
    simp only [if_neg apart]
    rfl

private theorem readOpening_group {rest : List Char} (apart : rest.head? ≠ some '?') :
    readOpening .initial rest = some (.group .initial none, rest) := by
  unfold readOpening
  rw [skip_initial]
  split
  · simp at apart
  · rfl

private theorem step_group (around : List Scope) (names : List (List Char)) {rest : List Char}
    (apart : rest.head? ≠ some '?') :
    (Progress.reading around names alternatives row).step '(' rest =
      some (Progress.reading
        ((Progress.reading around names alternatives row).scope :: around) names [] [], rest) := by
  unfold Progress.step
  dsimp only
  rw [Progress.reading, readOpening_group apart]
  rfl

private theorem step_closing (around : List Scope) (names : List (List Char))
    {innerAlternatives innerRow : List Nat} (rest : List Char) :
    (Progress.reading ((Progress.reading around names alternatives row).scope :: around) names
        innerAlternatives innerRow).step ')' rest =
      some (Progress.reading around names alternatives
        ((1 + heightOf (heightOf innerRow :: innerAlternatives)) :: row), rest) := by
  unfold Progress.step
  dsimp only
  rw [Progress.close?, Scope.height, Progress.heights_reading]
  rfl

private theorem step_alternative (around : List Scope) (names : List (List Char))
    (rest : List Char) :
    (Progress.reading around names alternatives row).step '|' rest =
      some (Progress.reading around names (heightOf row :: alternatives) [], rest) := by
  unfold Progress.step
  dsimp only
  rw [Scope.nextAlternative, Progress.heights_reading]
  rfl

/-- A regular text at the front of a group is read with the heights that it has. -/
theorem finish?_append (regular : Regular text alternatives row) {rest : List Char}
    (apart : rest.head? ≠ some '?') (around : List Scope) (names : List (List Char)) :
    (Progress.reading around names [] []).finish? (text ++ rest) =
      (Progress.reading around names alternatives row).finish? rest := by
  induction regular generalizing rest around with
  | nothing => rfl
  | character character before inductionHypothesis =>
      rw [List.append_assoc, inductionHypothesis (head?_escaped character rest)]
      exact Progress.finish?_escaped character rest
  | anyCharacter before inductionHypothesis =>
      rw [List.append_assoc, inductionHypothesis (by simp)]
      exact Progress.finish?_cons rfl
  | set before inside inductionHypothesis =>
      rw [List.append_assoc, inductionHypothesis (by simp), List.cons_append, List.append_assoc]
      exact Progress.finish?_cons (step_set inside around names rest)
  | @repeated text alternatives row height sign starOrPlus before inductionHypothesis =>
      have apartSign : ([sign] ++ rest).head? ≠ some '?' := by
        rcases starOrPlus with star | plus
        · simp [star]
        · simp [plus]
      rw [List.append_assoc, inductionHypothesis apartSign]
      exact Progress.finish?_cons (step_repeated starOrPlus around names apart)
  | alternative before inductionHypothesis =>
      rw [List.append_assoc, inductionHypothesis (by simp)]
      exact Progress.finish?_cons (step_alternative around names rest)
  | @group text inner _ _ _ _ before inside inductionHypothesis insideHypothesis =>
      have apartInner : (inner ++ ')' :: rest).head? ≠ some '?' := inside.head?_append (by simp)
      rw [List.append_assoc, inductionHypothesis (by simp), List.cons_append, List.append_assoc,
        List.singleton_append, Progress.finish?_cons (step_group around names apartInner),
        insideHypothesis (by simp)]
      exact Progress.finish?_cons (step_closing around names rest)

/-- A regular text is a pattern exactly if it is no higher than allowed. -/
theorem isPattern_iff (regular : Regular text alternatives row) :
    isPattern text = true ↔ heightOf (heightOf row :: alternatives) ≤ greatestHeight := by
  have finished : Progress.start.finish? text = some (heightOf (heightOf row :: alternatives)) := by
    rw [← List.append_nil text]
    exact (regular.finish?_append (by simp) [] []).trans Progress.finish?_nil
  rw [isPattern, finished, Option.any_some, decide_eq_true_iff]

end Regular

/-! ## Texts as they stand, and groups in groups -/

private theorem regular_flatMap_escaped (text : List Char) :
    Regular (text.flatMap escaped) [] (List.replicate text.length 0) := by
  induction text using List.reverseRecOn with
  | nil => exact .nothing
  | append_singleton front last inductionHypothesis =>
      rw [List.flatMap_append, List.flatMap_singleton, List.length_append, List.length_singleton]
      exact inductionHypothesis.character last

private theorem foldl_max_replicate (count : Nat) :
    (List.replicate count 0).foldl max 0 = 0 := by
  induction count with
  | zero => rfl
  | succ count inductionHypothesis => exact inductionHypothesis

private theorem heightOf_replicate_le : ∀ count : Nat, heightOf (List.replicate count 0) ≤ 1
  | 0 => Nat.zero_le 1
  | 1 => Nat.zero_le 1
  | count + 2 => by
      have flat := foldl_max_replicate (count + 2)
      change 1 + (List.replicate (count + 2) 0).foldl max 0 ≤ 1
      omega

/-- Every text is looked for by a pattern, in which its marks are escaped. -/
theorem isPattern_flatMap_escaped (text : List Char) :
    isPattern (text.flatMap escaped) = true := by
  rw [(regular_flatMap_escaped text).isPattern_iff]
  calc
    heightOf [heightOf (List.replicate text.length 0)] ≤ 1 := heightOf_replicate_le text.length
    _ ≤ greatestHeight := by decide

def nested (character : Char) : Nat → List Char
  | 0 => escaped character
  | depth + 1 => '(' :: (nested character depth ++ [')'])

theorem regular_nested (character : Char) (depth : Nat) :
    Regular (nested character depth) [] [depth] := by
  induction depth with
  | zero => exact Regular.nothing.character character
  | succ depth inductionHypothesis =>
      have group : Regular (nested character (depth + 1)) [] [1 + depth] :=
        Regular.nothing.group inductionHypothesis
      rwa [Nat.add_comm 1 depth] at group

/-- Groups can be nested as deep as patterns may be high. -/
theorem isPattern_nested_iff (character : Char) (depth : Nat) :
    isPattern (nested character depth) = true ↔ depth ≤ greatestHeight :=
  (regular_nested character depth).isPattern_iff

end Reckon.Pattern
