import Reckon.Proofs.CommandLines

/-!
Which lines spell which command. A line is read as a command exactly if, after any blanks,
a word for the command stands in it, and after that word the arguments of the command. So
every command whose arguments a line can give is read from all lines that spell it, and what
is read from a line is what stands there: of the contents that a cell is set to, nothing is
left out but line ends at the end of the line.
-/

namespace Reckon

namespace Text

/-! ## Words and gaps -/

structure IsWord (text : List Char) : Prop where
  something : text ≠ []
  solid : ∀ character ∈ text, isBlank character = false

structure IsGap (text : List Char) : Prop where
  something : text ≠ []
  blank : ∀ character ∈ text, isBlank character = true

/-- A text is set off in what follows a word: a gap is before it, and blanks, if anything,
are after it. -/
def SetOff (text tail : List Char) : Prop :=
  ∃ gap trailing, IsGap gap ∧ (∀ character ∈ trailing, isBlank character = true) ∧
    tail = gap ++ (text ++ trailing)

section

variable {text kept tail : List Char}

/-- Blanks before something in a text that begins with a blank, if at all, are a gap. -/
theorem gap_of_split {leading : List Char} (parted : ∀ first ∈ tail.head?, isBlank first = true)
    (something : kept ≠ []) (starts : ∀ first ∈ kept.head?, isBlank first = false)
    (blank : ∀ character ∈ leading, isBlank character = true) (split : tail = leading ++ kept) :
    IsGap leading := by
  refine ⟨?_, blank⟩
  rintro rfl
  obtain ⟨first, rest, rfl⟩ := List.exists_cons_of_ne_nil something
  subst split
  exact Bool.noConfusion ((parted first rfl).symm.trans (starts first rfl))

private theorem IsGap.parted {gap : List Char} (isGap : IsGap gap) (rest : List Char) :
    ∀ first ∈ (gap ++ rest).head?, isBlank first = true := by
  intro first isFirst
  rw [List.head?_append_of_ne_nil _ isGap.something] at isFirst
  exact isGap.blank first (List.mem_of_mem_head? isFirst)

private theorem SetOff.parted (setOff : SetOff text tail) :
    ∀ first ∈ tail.head?, isBlank first = true := by
  obtain ⟨gap, trailing, isGap, _, rfl⟩ := setOff
  exact isGap.parted _

/-- What is left of a text that begins with a blank, if at all, is set off in it. -/
theorem trimBlank_eq_iff_setOff (parted : ∀ first ∈ tail.head?, isBlank first = true)
    (something : kept ≠ []) : trimBlank tail = kept ↔ IsPhrase kept ∧ SetOff kept tail := by
  rw [trimBlank_eq_iff_of_ne_nil something]
  refine and_congr_right fun phrase => ⟨?_, ?_⟩
  · rintro ⟨leading, trailing, blankLeading, blankTrailing, split⟩
    have nonempty : kept ++ trailing ≠ [] := List.append_ne_nil_of_left_ne_nil something trailing
    refine ⟨leading, trailing, ?_, blankTrailing, split⟩
    refine gap_of_split parted nonempty (fun first isFirst => ?_) blankLeading split
    rw [List.head?_append_of_ne_nil _ something] at isFirst
    exact phrase.starts first isFirst
  · rintro ⟨gap, trailing, isGap, blankTrailing, split⟩
    exact ⟨gap, trailing, isGap.blank, blankTrailing, split⟩

end

end Text

namespace Command

open Text

/-! ## How lines spell commands -/

/-- Whether a line can give the arguments of a command: to a cell that is one word, contents
that do not end in a line end, and to other commands a phrase. -/
def Expressible : Command → Prop
  | .set cell text =>
      IsWord cell.toList ∧ ∀ last ∈ text.toList.getLast?, last ≠ '\r' ∧ last ≠ '\n'
  | .get text | .contents text | .dependents text | .save (some text) | .version text =>
      IsPhrase text.toList
  | .cells | .save none | .help | .quit => True

def words : Command → List String
  | .set _ _ => ["set"]
  | .get _ => ["get"]
  | .contents _ => ["contents"]
  | .cells => ["cells"]
  | .dependents _ => ["deps"]
  | .save _ => ["save"]
  | .version _ => ["version"]
  | .help => ["help", "?"]
  | .quit => ["quit", "exit"]

/-- A cell and its contents: the contents stand after exactly one blank, with all of their
own blanks, up to the line ends at the end. A cell alone is given no contents. -/
def Assigns (cell text : String) (rest : List Char) : Prop :=
  text = "" ∧ rest = cell.toList ∨
    ∃ blank ending, isBlank blank = true ∧
      (∀ character ∈ ending, isLineEnd character = true) ∧
        rest = cell.toList ++ blank :: (text.toList ++ ending)

/-- What stands after the word for a command in a line that spells it. Where no argument is
asked for, there may be anything that does not belong to the word. -/
def Follows : Command → List Char → Prop
  | .set cell text, tail => ∃ gap rest, IsGap gap ∧ Assigns cell text rest ∧ tail = gap ++ rest
  | .get text, tail | .contents text, tail | .dependents text, tail
  | .save (some text), tail | .version text, tail =>
      SetOff text.toList tail
  | .save none, tail => ∀ character ∈ tail, isBlank character = true
  | .cells, tail | .help, tail | .quit, tail => ∀ first ∈ tail.head?, isBlank first = true

/-- A line spells a command where a word for it stands after blanks, or at the start, and
then what belongs to the command. -/
def SpelledBy (command : Command) (line : List Char) : Prop :=
  ∃ leading word tail, (∀ character ∈ leading, isBlank character = true) ∧
    word ∈ command.words ∧ command.Follows tail ∧ line = leading ++ (word.toList ++ tail)

/-! ## The first word of a line -/

private theorem splitWord_append
    {leading word tail : List Char} (blank : ∀ character ∈ leading, isBlank character = true)
    (isWord : IsWord word) (parted : ∀ first ∈ tail.head?, isBlank first = true) :
    splitWord (leading ++ (word ++ tail)) = (word, dropBlank tail) := by
  cases tail with
  | nil =>
      have dropped := dropBlank_word blank isWord.something isWord.solid []
      rw [splitWord, dropped, List.append_nil, cutAtBlank_eq_none_iff.2 isWord.solid]
      rfl
  | cons first rest =>
      have white := parted first rfl
      rw [splitWord_of_word blank isWord.something isWord.solid white, dropBlank, dropBlank,
        List.dropWhile_cons_of_pos white]

/-- Every line is blanks, its first word and a rest that begins with a blank, if there is
any. -/
theorem exists_split (line : List Char) :
    ∃ leading tail, (∀ character ∈ leading, isBlank character = true) ∧
      (∀ first ∈ tail.head?, isBlank first = true) ∧
        line = leading ++ ((splitWord line).1 ++ tail) ∧
          (splitWord line).2 = dropBlank tail := by
  obtain ⟨_, leading, blank, split⟩ := dropBlank_eq_iff.1 (Eq.refl (dropBlank line))
  cases cut : cutAtBlank (dropBlank line) with
  | none =>
      refine ⟨leading, [], blank, by simp, ?_, ?_⟩
      · rwa [splitWord, cut, List.append_nil]
      · rw [splitWord, cut]
        rfl
  | some pieces =>
      obtain ⟨word, rest⟩ := pieces
      obtain ⟨first, white, _, spelled⟩ := cutAtBlank_eq_some_iff.1 cut
      refine ⟨leading, first :: rest, blank, by simpa using white, ?_, ?_⟩
      · rw [splitWord, cut, ← spelled]
        exact split
      · rw [splitWord, cut]
        exact (List.dropWhile_cons_of_pos white).symm

/-! ## Arguments -/

section

variable {tail : List Char} (parted : ∀ first ∈ tail.head?, isBlank first = true)
include parted

private theorem argument_eq_ok_iff {word text : String} :
    argument word (dropBlank tail) = .ok text ↔
      IsPhrase text.toList ∧ SetOff text.toList tail := by
  unfold argument
  dsimp only
  rw [trimBlank_dropBlank]
  split
  · next nothing =>
      simp only [reduceCtorEq, false_iff, not_and]
      intro phrase setOff
      rw [(trimBlank_eq_iff_setOff parted phrase.something).2 ⟨phrase, setOff⟩] at nothing
      exact phrase.something nothing
  · next something =>
      rw [Except.ok.injEq, ← String.toList_inj, String.toList_ofList]
      constructor
      · intro same
        rwa [← trimBlank_eq_iff_setOff parted (same ▸ something)]
      · intro given
        exact (trimBlank_eq_iff_setOff parted given.1.something).2 given

private theorem map_argument_eq_ok_iff {word : String} {make : String → Command}
    {command : Command} :
    (argument word (dropBlank tail)).map make = .ok command ↔
      ∃ text, (IsPhrase text.toList ∧ SetOff text.toList tail) ∧ make text = command := by
  rw [map_eq_ok]
  simp only [argument_eq_ok_iff parted]

private theorem savePath_eq_some_iff {path : String} :
    savePath (dropBlank tail) = some path ↔
      IsPhrase path.toList ∧ SetOff path.toList tail := by
  rw [← @argument_eq_ok_iff tail parted "save" path, argument, savePath]
  split
  · simp
  · simp

omit parted in
private theorem savePath_eq_none_iff :
    savePath (dropBlank tail) = none ↔ ∀ character ∈ tail, isBlank character = true := by
  rw [← trimBlank_eq_nil_iff, savePath, trimBlank_dropBlank]
  split
  · next nothing => simp [nothing]
  · next something => simp [something]

end

section

variable {cell text : String} {tail : List Char}

private theorem setArguments_of_assigns {rest : List Char}
    (expressible : Expressible (.set cell text))
    (assigns : Assigns cell text rest) : setArguments rest = .ok (.set cell text) := by
  obtain ⟨isWord, unended⟩ := expressible
  rcases assigns with ⟨rfl, rfl⟩ | ⟨blank, ending, white, lineEnds, rfl⟩
  · rw [setArguments, cutAtBlank_eq_none_iff.2 isWord.solid]
    dsimp only
    rw [dropTrailing_blank_of_solid isWord.solid, if_neg isWord.something, String.ofList_toList]
  · have kept : dropTrailing isLineEnd (text.toList ++ ending) = text.toList :=
      dropTrailing_eq_iff.2 ⟨by simpa [isLineEnd] using unended, ending, lineEnds, rfl⟩
    rw [setArguments, cutAtBlank_of_word isWord.solid white]
    dsimp only
    rw [kept, if_neg isWord.something, String.ofList_toList, String.ofList_toList]

private theorem exists_assigns_of_setArguments {rest : List Char} {command : Command}
    (read : setArguments rest = .ok command) :
    ∃ cell text, command = .set cell text ∧ Expressible (.set cell text) ∧
      Assigns cell text rest := by
  unfold setArguments at read
  cases cut : cutAtBlank rest with
  | none =>
      have solid := cutAtBlank_eq_none_iff.1 cut
      rw [cut] at read
      dsimp only at read
      rw [dropTrailing_blank_of_solid solid] at read
      split at read
      · cases read
      · next something =>
          injection read with same
          refine ⟨_, _, same.symm, ⟨?_, by simp⟩, Or.inl ⟨rfl, String.toList_ofList.symm⟩⟩
          rw [String.toList_ofList]
          exact ⟨something, solid⟩
  | some pieces =>
      obtain ⟨name, after⟩ := pieces
      obtain ⟨blank, white, solid, spelled⟩ := cutAtBlank_eq_some_iff.1 cut
      obtain ⟨unended, ending, lineEnds, whole⟩ :=
        dropTrailing_eq_iff.1 (Eq.refl (dropTrailing isLineEnd after))
      rw [cut] at read
      dsimp only at read
      split at read
      · cases read
      · next something =>
          injection read with same
          refine ⟨_, _, same.symm, ⟨?_, ?_⟩, Or.inr ⟨blank, ending, white, lineEnds, ?_⟩⟩
          · rw [String.toList_ofList]
            exact ⟨something, solid⟩
          · rw [String.toList_ofList]
            simpa [isLineEnd] using unended
          · rw [String.toList_ofList, String.toList_ofList, ← whole, spelled]

theorem Assigns.starts {rest : List Char} (isWord : IsWord cell.toList)
    (assigns : Assigns cell text rest) :
    rest ≠ [] ∧ ∀ first ∈ rest.head?, isBlank first = false := by
  obtain ⟨first, others, shape⟩ := List.exists_cons_of_ne_nil isWord.something
  have solid := isWord.solid first (by simp [shape])
  rcases assigns with ⟨_, rfl⟩ | ⟨_, _, _, _, rfl⟩
  · simpa [shape] using solid
  · simpa [shape] using solid

private theorem setArguments_eq_ok_iff (parted : ∀ first ∈ tail.head?, isBlank first = true)
    {command : Command} :
    setArguments (dropBlank tail) = .ok command ↔
      ∃ cell text, command = .set cell text ∧ Expressible (.set cell text) ∧
        Follows (.set cell text) tail := by
  constructor
  · intro read
    obtain ⟨cell, text, same, expressible, assigns⟩ := exists_assigns_of_setArguments read
    obtain ⟨_, gap, blank, split⟩ := dropBlank_eq_iff.1 (Eq.refl (dropBlank tail))
    obtain ⟨something, starts⟩ := assigns.starts expressible.1
    exact ⟨cell, text, same, expressible, gap, _,
      gap_of_split parted something starts blank split, assigns, split⟩
  · rintro ⟨cell, text, rfl, expressible, gap, rest, isGap, assigns, split⟩
    have dropped : dropBlank tail = rest :=
      dropBlank_eq_iff.2 ⟨(assigns.starts expressible.1).2, gap, isGap.blank, split⟩
    rw [dropped]
    exact setArguments_of_assigns expressible assigns

end

/-! ## Lines -/

private theorem Follows.parted {command : Command} {tail : List Char}
    (follows : command.Follows tail) :
    ∀ first ∈ tail.head?, isBlank first = true := by
  cases command with
  | set cell text =>
      obtain ⟨gap, rest, isGap, _, rfl⟩ := follows
      exact isGap.parted rest
  | get text | contents text | dependents text | version text => exact SetOff.parted follows
  | save path =>
      cases path with
      | none => exact fun first isFirst => follows first (List.mem_of_mem_head? isFirst)
      | some path => exact SetOff.parted follows
  | cells | help | quit => exact follows

private theorem isWord_of_mem_words {command : Command} {word : String}
    (listed : word ∈ command.words) :
    IsWord word.toList := by
  have solid : ∀ word ∈ command.words, word.toList ≠ [] ∧ word.toList.any isBlank = false := by
    cases command <;> (simp only [words]; decide)
  obtain ⟨something, noBlank⟩ := solid word listed
  exact ⟨something, by simpa using noBlank⟩

/-- What is read from a line is spelled by it, one case for each word. -/
theorem spelledBy_of_ofLine_eq_ok {line : String} {command : Command}
    (read : ofLine line = .ok command) :
    command.Expressible ∧ command.SpelledBy line.toList := by
  obtain ⟨leading, tail, blank, parted, split, rest⟩ := exists_split line.toList
  cases pieces : splitWord line.toList with
  | mk letters others =>
      rw [pieces] at split rest
      obtain rfl : others = dropBlank tail := rest
      have spelledBy : ∀ {word : String} {command : Command}, String.ofList letters = word →
          word ∈ command.words → command.Follows tail → command.SpelledBy line.toList := by
        rintro word command rfl listed follows
        refine ⟨leading, _, tail, blank, listed, follows, ?_⟩
        rwa [String.toList_ofList]
      unfold ofLine at read
      rw [pieces] at read
      dsimp only at read
      split at read
      · next set =>
          obtain ⟨cell, text, rfl, expressible, follows⟩ := (setArguments_eq_ok_iff parted).1 read
          exact ⟨expressible, spelledBy set (by simp [words]) follows⟩
      · next get =>
          obtain ⟨text, ⟨phrase, setOff⟩, rfl⟩ := (map_argument_eq_ok_iff parted).1 read
          exact ⟨phrase, spelledBy get (by simp [words]) setOff⟩
      · next contents =>
          obtain ⟨text, ⟨phrase, setOff⟩, rfl⟩ := (map_argument_eq_ok_iff parted).1 read
          exact ⟨phrase, spelledBy contents (by simp [words]) setOff⟩
      · next cells =>
          cases read
          exact ⟨trivial, spelledBy cells (by simp [words]) parted⟩
      · next deps =>
          obtain ⟨text, ⟨phrase, setOff⟩, rfl⟩ := (map_argument_eq_ok_iff parted).1 read
          exact ⟨phrase, spelledBy deps (by simp [words]) setOff⟩
      · next save =>
          cases read
          cases given : savePath (dropBlank tail) with
          | none =>
              exact ⟨trivial, spelledBy save (by simp [words]) (savePath_eq_none_iff.1 given)⟩
          | some path =>
              obtain ⟨phrase, setOff⟩ := (savePath_eq_some_iff parted).1 given
              exact ⟨phrase, spelledBy save (by simp [words]) setOff⟩
      · next version =>
          obtain ⟨text, ⟨phrase, setOff⟩, rfl⟩ := (map_argument_eq_ok_iff parted).1 read
          exact ⟨phrase, spelledBy version (by simp [words]) setOff⟩
      · next help =>
          cases read
          exact ⟨trivial, spelledBy help (by simp [words]) parted⟩
      · next mark =>
          cases read
          exact ⟨trivial, spelledBy mark (by simp [words]) parted⟩
      · next quit =>
          cases read
          exact ⟨trivial, spelledBy quit (by simp [words]) parted⟩
      · next exit =>
          cases read
          exact ⟨trivial, spelledBy exit (by simp [words]) parted⟩
      · cases read

theorem ofLine_of_spelledBy {line : String} {command : Command}
    (expressible : command.Expressible) (spelled : command.SpelledBy line.toList) :
    ofLine line = .ok command := by
  obtain ⟨leading, word, tail, blank, listed, follows, split⟩ := spelled
  have parted := follows.parted
  rw [ofLine, split, splitWord_append blank (isWord_of_mem_words listed) parted]
  dsimp only
  rw [String.ofList_toList]
  cases command with
  | set cell text =>
      obtain rfl := List.mem_singleton.1 listed
      exact (setArguments_eq_ok_iff parted).2 ⟨cell, text, rfl, expressible, follows⟩
  | get text | contents text | dependents text | version text =>
      obtain rfl := List.mem_singleton.1 listed
      exact (map_argument_eq_ok_iff parted).2 ⟨text, ⟨expressible, follows⟩, rfl⟩
  | save path =>
      obtain rfl := List.mem_singleton.1 listed
      refine congrArg (fun path => Except.ok (Command.save path)) ?_
      cases path with
      | none => exact savePath_eq_none_iff.2 follows
      | some path => exact (savePath_eq_some_iff parted).2 ⟨expressible, follows⟩
  | cells =>
      obtain rfl := List.mem_singleton.1 listed
      rfl
  | help | quit =>
      obtain rfl | rfl := List.mem_pair.1 listed
      · rfl
      · rfl

/-- A line is read as a command exactly if a line can give the arguments of the command, and
the line spells it: blanks, or none, a word for the command, and after at least one blank its
argument, where a cell is parted from its contents by one blank. -/
theorem ofLine_eq_ok_iff_spelledBy (line : String) (command : Command) :
    ofLine line = .ok command ↔ command.Expressible ∧ command.SpelledBy line.toList := by
  constructor
  · exact spelledBy_of_ofLine_eq_ok
  · rintro ⟨expressible, spelled⟩
    exact ofLine_of_spelledBy expressible spelled

example : ofLine "\t set  A1 \u2003x y \r\n" = .ok (.set "A1" "\u2003x y ") := by decide

end Command

end Reckon
