import Reckon.Proofs.Contents
import Reckon.Proofs.PatternTexts
import Reckon.Proofs.Trimming
import Reckon.Session

/-!
Log filters. A directive is read character by character, and its parts are cut from the text
by positions that count bytes. Where no blank stands before a directive, every cut falls
between two characters, and the directives are those of a grammar: a name, a span or both, and
then, if anything, an equals sign and a level.
-/

namespace Reckon

namespace LogFilter

open Text

/-! ## Cuts between characters -/

private theorem byteCount_concat (front : List Char) (last : Char) :
    byteCount (front ++ [last]) = byteCount front + last.utf8Size := by
  simp [byteCount]

private theorem fromByte?_byteCount (front back : List Char) :
    fromByte? (byteCount front) (front ++ back) = some back := by
  rw [fromByte?, splitAtByte?_eq_some_iff.2 ⟨rfl, rfl⟩]
  rfl

private theorem cut_byteCount (front part back : List Char) :
    cut (front ++ part ++ back) (byteCount front) (byteCount (front ++ part)) = .ok part := by
  have split : splitAtByte? (byteCount (front ++ part)) (front ++ part ++ back) =
      some (front ++ part, back) := splitAtByte?_eq_some_iff.2 ⟨rfl, rfl⟩
  have slice : sliceBytes? (byteCount front) (byteCount (front ++ part)) (front ++ part ++ back) =
      some part := by
    rw [sliceBytes?, split]
    exact fromByte?_byteCount front part
  rw [cut, slice]

/-! ## Runs -/

/-- With what the name of a part begins. -/
def beginsName (first : Char) : Bool :=
  isAlphanumeric first || first = '-' || first = ':' || first = '_'

namespace Place

/-- Whether a directive may go on with the characters and end after them, where others were
read before and blanks are left over after it. -/
def run (trailing before : List Char) (place : Place) (characters : List Char) :
    Except Flaw Unit :=
  place.after (before ++ (characters ++ trailing)) (byteCount before) characters >>=
    finish (before ++ (characters ++ trailing))

section

variable {trailing before rest : List Char} {character : Char} {place next : Place}

private theorem run_cons
    (read : place.next (before ++ character :: (rest ++ trailing)) (byteCount before) character =
      .ok next) :
    place.run trailing before (character :: rest) =
      next.run trailing (before ++ [character]) rest := by
  rw [run, after, List.cons_append, read, run, List.append_assoc, byteCount_concat]
  rfl

private theorem run_cons_error {flaw : Flaw}
    (failed : place.next (before ++ character :: (rest ++ trailing)) (byteCount before) character =
      .error flaw) :
    place.run trailing before (character :: rest) = .error flaw := by
  rw [run, after, List.cons_append, failed]
  rfl

/-- A place is kept while each character leaves it as it is. -/
private theorem run_append {part : List Char}
    (stays : ∀ character ∈ part, ∀ text position,
      place.next text position character = .ok place) :
    place.run trailing before (part ++ rest) = place.run trailing (before ++ part) rest := by
  induction part generalizing before with
  | nil => rw [List.append_nil, List.nil_append]
  | cons first others inductionHypothesis =>
      rw [List.cons_append, run_cons (stays first List.mem_cons_self _ _), inductionHypothesis
        fun character listed => stays character (List.mem_cons_of_mem first listed),
        List.append_assoc, List.singleton_append]

end

section

variable {text : List Char} {position first : Nat} {character : Char}

private theorem next_start (noSpan : character ≠ '[') :
    Place.next text position .start character =
      if beginsName character then .ok .name else .error .malformed := by
  unfold Place.next
  split <;> simp_all [beginsName]

private theorem next_name (plain : character ≠ '=' ∧ character ≠ '[') :
    Place.next text position .name character = .ok .name := by
  unfold Place.next
  split <;> simp_all

private theorem next_span (plain : character ≠ ']' ∧ character ≠ '\x7b') :
    Place.next text position (.span first) character = .ok (.span first) := by
  unfold Place.next
  split <;> simp_all

private theorem next_field (plain : character ≠ '\x7d') :
    Place.next text position (.field first) character = .ok (.field first) := by
  unfold Place.next
  split <;> simp_all

private theorem next_level :
    Place.next text position (.level first) character = .ok (.level first) := by
  unfold Place.next
  split <;> simp_all

private theorem next_afterField (other : character ≠ ']') :
    Place.next text position .afterField character = .error .malformed := by
  unfold Place.next
  split <;> simp_all

private theorem next_afterSpan (other : character ≠ '=') :
    Place.next text position .afterSpan character = .error .malformed := by
  unfold Place.next
  split <;> simp_all

end

end Place

/-! ## Where cuts are made -/

namespace Place

def kept? : Place → Option Nat
  | .name => some 0
  | .span first | .field first | .level first => some first
  | .start | .afterField | .afterSpan => none

/-- The position that a place keeps stands between two characters that were read, or before or
after all of them. -/
def Sound (before : List Char) (place : Place) : Prop :=
  ∀ first ∈ place.kept?, ∃ front part, before = front ++ part ∧ byteCount front = first

section

variable {before rest : List Char} {character : Char} {place next : Place}

private theorem Sound.cut {first : Nat} (sound : place.Sound before)
    (kept : first ∈ place.kept?) (rest : List Char) :
    ∃ part, cut (before ++ rest) first (byteCount before) = .ok part := by
  obtain ⟨front, part, split, counted⟩ := sound first kept
  rw [split, ← counted]
  exact ⟨part, cut_byteCount front part rest⟩

private theorem Sound.concat (sound : place.Sound before) (character : Char) :
    place.Sound (before ++ [character]) := by
  intro first kept
  obtain ⟨front, part, split, counted⟩ := sound first kept
  exact ⟨front, part ++ [character], by rw [split, List.append_assoc], counted⟩

private theorem sound_name (before : List Char) : Place.name.Sound before := by
  intro first kept
  injection kept with zero
  exact ⟨[], before, rfl, zero⟩

private theorem sound_of_kept?_eq_none (nothing : place.kept? = none) (before : List Char) :
    place.Sound before := by
  intro first kept
  rw [nothing] at kept
  cases kept

/-- A part begins after a character of one byte. -/
private theorem sound_of_begun (single : character.utf8Size = 1)
    (kept : place.kept? = some (byteCount before + 1)) : place.Sound (before ++ [character]) := by
  intro first isKept
  rw [kept] at isKept
  injection isKept with same
  refine ⟨before ++ [character], [], (List.append_nil _).symm, ?_⟩
  rw [byteCount_concat, single, same]

/-- A character is refused, or what is kept after it is right again; no cut fails. -/
private theorem next_cases (sound : place.Sound before) :
    place.next (before ++ character :: rest) (byteCount before) character = .error .malformed ∨
      ∃ next, place.next (before ++ character :: rest) (byteCount before) character = .ok next ∧
        next.Sound (before ++ [character]) := by
  cases place with
  | start =>
      by_cases bracket : character = '['
      · rw [bracket]
        exact Or.inr ⟨_, rfl, sound_of_begun rfl rfl⟩
      · rw [next_start bracket]
        by_cases begins : beginsName character = true
        · rw [if_pos begins]
          exact Or.inr ⟨.name, rfl, sound_name _⟩
        · rw [if_neg begins]
          exact Or.inl rfl
  | name =>
      obtain ⟨part, done⟩ := (sound_name before).cut rfl (character :: rest)
      by_cases equals : character = '='
      · rw [equals] at done
        rw [equals, Place.next, done]
        exact Or.inr ⟨_, rfl, sound_of_begun rfl rfl⟩
      · by_cases bracket : character = '['
        · rw [bracket] at done
          rw [bracket, Place.next, done]
          exact Or.inr ⟨_, rfl, sound_of_begun rfl rfl⟩
        · exact Or.inr ⟨.name, next_name ⟨equals, bracket⟩, sound_name _⟩
  | span first =>
      obtain ⟨part, done⟩ := sound.cut rfl (character :: rest)
      by_cases bracket : character = ']'
      · rw [bracket] at done
        rw [bracket, Place.next, done]
        exact Or.inr ⟨_, rfl, sound_of_kept?_eq_none rfl _⟩
      · by_cases brace : character = '\x7b'
        · rw [brace] at done
          rw [brace, Place.next, done]
          exact Or.inr ⟨_, rfl, sound_of_begun rfl rfl⟩
        · exact Or.inr ⟨.span first, next_span ⟨bracket, brace⟩, sound.concat character⟩
  | field first =>
      obtain ⟨part, done⟩ := sound.cut rfl (character :: rest)
      by_cases brace : character = '\x7d'
      · rw [brace] at done
        rw [brace, Place.next, done]
        by_cases fits : isField part = true
        · exact Or.inr ⟨.afterField, if_pos fits, sound_of_kept?_eq_none rfl _⟩
        · exact Or.inl (if_neg fits)
      · exact Or.inr ⟨.field first, next_field brace, sound.concat character⟩
  | afterField =>
      by_cases bracket : character = ']'
      · rw [bracket]
        exact Or.inr ⟨.afterSpan, rfl, sound_of_kept?_eq_none rfl _⟩
      · exact Or.inl (next_afterField bracket)
  | afterSpan =>
      by_cases equals : character = '='
      · rw [equals]
        exact Or.inr ⟨_, rfl, sound_of_begun rfl rfl⟩
      · exact Or.inl (next_afterSpan equals)
  | level first => exact Or.inr ⟨.level first, next_level, sound.concat character⟩

private theorem finish_ne_insideCharacter (sound : place.Sound before) (rest : List Char) :
    place.finish (before ++ rest) ≠ .error .insideCharacter := by
  cases place with
  | level first =>
      obtain ⟨front, part, split, counted⟩ := sound first rfl
      rw [finish, split, List.append_assoc, ← counted, fromByte?_byteCount]
      dsimp only
      split
      · nofun
      · nofun
  | _ => nofun

/-- By induction on the characters, of which each leaves what is kept right. -/
private theorem run_ne_insideCharacter {characters : List Char} (sound : place.Sound before)
    (trailing : List Char) :
    place.run trailing before characters ≠ .error .insideCharacter := by
  induction characters generalizing before place with
  | nil => exact finish_ne_insideCharacter sound trailing
  | cons character others inductionHypothesis =>
      rcases @next_cases before (others ++ trailing) character place sound with
        refused | ⟨next, read, soundNext⟩
      · rw [run_cons_error refused]
        nofun
      · rw [run_cons read]
        exact inductionHypothesis soundNext

end

end Place

/-! ## The grammar of directives -/

/-- What may stand at the end of a directive: nothing, or a level after an equals sign. -/
inductive Ending : List Char → Prop where
  | nothing : Ending []
  | level {written : List Char} (isLevel : isLevel written = true) : Ending ('=' :: written)

inductive Span : List Char → Prop where
  | plain {inner : List Char}
      (closed : ∀ character ∈ inner, character ≠ ']' ∧ character ≠ '\x7b') :
      Span ('[' :: (inner ++ [']']))
  | field {inner field : List Char}
      (closed : ∀ character ∈ inner, character ≠ ']' ∧ character ≠ '\x7b')
      (braced : ∀ character ∈ field, character ≠ '\x7d') (isField : isField field = true) :
      Span ('[' :: (inner ++ '\x7b' :: (field ++ ['\x7d', ']'])))

private theorem Span.exists_cons {span : List Char} (isSpan : Span span) :
    ∃ rest, span = '[' :: rest := by
  cases isSpan with
  | plain _ => exact ⟨_, rfl⟩
  | field _ _ _ => exact ⟨_, rfl⟩

/-- A part of the program: a name, a span or both. -/
inductive Part : List Char → Prop where
  | name {first : Char} {plain span : List Char} (begins : beginsName first = true)
      (isPlain : ∀ character ∈ plain, character ≠ '=' ∧ character ≠ '[')
      (spanned : span = [] ∨ Span span) : Part (first :: (plain ++ span))
  | span {span : List Char} (isSpan : Span span) : Part span

def IsDirective (text : List Char) : Prop :=
  ∃ part ending, Part part ∧ Ending ending ∧ text = part ++ ending

/-- A text up to the first character of a kind. -/
private theorem exists_split (stops : Char → Bool) (text : List Char) :
    ∃ front rest, text = front ++ rest ∧ (∀ character ∈ front, stops character = false) ∧
      (rest = [] ∨ ∃ mark after, rest = mark :: after ∧ stops mark = true) := by
  obtain ⟨stopped, front, kept, split⟩ :=
    dropWhile_eq_iff.1 (Eq.refl (text.dropWhile fun character => !stops character))
  refine ⟨front, _, split, fun character listed => by simpa using kept character listed, ?_⟩
  generalize text.dropWhile (fun character => !stops character) = rest at stopped
  cases rest with
  | nil => exact Or.inl rfl
  | cons mark after => exact Or.inr ⟨mark, after, rfl, by simpa using stopped mark rfl⟩

namespace Place

section

variable {before characters : List Char}

private theorem run_level (written : List Char) :
    (Place.level (byteCount before)).run [] before written =
      if isLevel written then .ok () else .error .malformed := by
  have read := @run_append [] before [] (.level (byteCount before)) written
    fun character _ text position => next_level
  rw [List.append_nil] at read
  rw [read]
  change finish (before ++ written ++ ([] ++ [])) (.level (byteCount before)) = _
  rw [finish, List.append_assoc, fromByte?_byteCount]
  simp

private theorem run_afterSpan_eq_ok :
    Place.afterSpan.run [] before characters = .ok () ↔ Ending characters := by
  cases characters with
  | nil => exact iff_of_true rfl .nothing
  | cons first written =>
      by_cases equals : first = '='
      · have level : Place.afterSpan.run [] before ('=' :: written) =
            (Place.level (byteCount (before ++ ['=']))).run [] (before ++ ['=']) written := by
          apply run_cons
          rw [byteCount_concat]
          rfl
        rw [equals, level, run_level]
        constructor
        · intro accepted
          by_cases isLevel : isLevel written = true
          · exact .level isLevel
          · rw [if_neg isLevel] at accepted
            cases accepted
        · intro ending
          cases ending with
          | level isLevel => rw [if_pos isLevel]
      · rw [run_cons_error (next_afterSpan equals)]
        refine iff_of_false nofun fun ending => ?_
        cases ending with
        | level _ => exact equals rfl

private theorem run_afterField_eq_ok :
    Place.afterField.run [] before characters = .ok () ↔
      ∃ ending, characters = ']' :: ending ∧ Ending ending := by
  cases characters with
  | nil => exact iff_of_false nofun nofun
  | cons first rest =>
      by_cases bracket : first = ']'
      · have span : Place.afterField.run [] before (']' :: rest) =
            Place.afterSpan.run [] (before ++ [']']) rest := run_cons rfl
        rw [bracket, span, run_afterSpan_eq_ok]
        simp
      · rw [run_cons_error (next_afterField bracket)]
        refine iff_of_false nofun fun found => ?_
        obtain ⟨ending, same, _⟩ := found
        injection same with sameFirst _
        exact bracket sameFirst

private theorem run_field_closed {field : List Char}
    (braced : ∀ character ∈ field, character ≠ '\x7d') (rest : List Char) :
    (Place.field (byteCount before)).run [] before (field ++ '\x7d' :: rest) =
      if isField field then Place.afterField.run [] (before ++ field ++ ['\x7d']) rest
      else .error .malformed := by
  rw [run_append fun character listed text position => next_field (braced character listed)]
  have done := cut_byteCount before field ('\x7d' :: (rest ++ []))
  by_cases fits : isField field = true
  · rw [if_pos fits]
    apply run_cons
    rw [next, done]
    exact if_pos fits
  · rw [if_neg fits]
    apply run_cons_error
    rw [next, done]
    exact if_neg fits

private theorem run_unclosed {place : Place} {part : List Char}
    (stays : ∀ character ∈ part, ∀ text position,
      place.next text position character = .ok place)
    (unfinished : ∀ text, place.finish text = .error .malformed) :
    place.run [] before part = .error .malformed := by
  have read := @run_append [] before [] place part stays
  rw [List.append_nil] at read
  rw [read]
  exact unfinished _

section

variable {inner : List Char}
  (closed : ∀ character ∈ inner, character ≠ ']' ∧ character ≠ '\x7b')
include closed

private theorem run_span_closed (rest : List Char) :
    (Place.span (byteCount before)).run [] before (inner ++ ']' :: rest) =
      Place.afterSpan.run [] (before ++ inner ++ [']']) rest := by
  rw [run_append fun character listed text position => next_span (closed character listed)]
  apply run_cons
  rw [next, cut_byteCount before inner (']' :: (rest ++ []))]
  rfl

private theorem run_span_field (rest : List Char) :
    (Place.span (byteCount before)).run [] before (inner ++ '\x7b' :: rest) =
      (Place.field (byteCount (before ++ inner ++ ['\x7b']))).run []
        (before ++ inner ++ ['\x7b']) rest := by
  rw [run_append fun character listed text position => next_span (closed character listed)]
  apply run_cons
  rw [next, cut_byteCount before inner ('\x7b' :: (rest ++ [])), byteCount_concat]
  rfl

end

private theorem run_field_eq_ok :
    (Place.field (byteCount before)).run [] before characters = .ok () ↔
      ∃ field ending, (∀ character ∈ field, character ≠ '\x7d') ∧ isField field = true ∧
        Ending ending ∧ characters = field ++ '\x7d' :: ']' :: ending := by
  constructor
  · intro accepted
    obtain ⟨field, rest, split, unstopped, stopped⟩ := exists_split (· = '\x7d') characters
    have braced : ∀ character ∈ field, character ≠ '\x7d' := by simpa using unstopped
    rcases stopped with nothing | ⟨mark, after, same, isBrace⟩
    · rw [split, nothing, List.append_nil, run_unclosed
        (fun character listed text position => next_field (braced character listed))
        fun text => rfl] at accepted
      cases accepted
    · obtain rfl : mark = '\x7d' := by simpa using isBrace
      rw [split, same, run_field_closed braced] at accepted
      by_cases fits : isField field = true
      · rw [if_pos fits, run_afterField_eq_ok] at accepted
        obtain ⟨ending, sameRest, isEnding⟩ := accepted
        exact ⟨field, ending, braced, fits, isEnding, by rw [split, same, sameRest]⟩
      · rw [if_neg fits] at accepted
        cases accepted
  · intro found
    obtain ⟨field, ending, braced, fits, isEnding, split⟩ := found
    rw [split, run_field_closed braced, if_pos fits, run_afterField_eq_ok]
    exact ⟨ending, rfl, isEnding⟩

private theorem run_span_eq_ok :
    (Place.span (byteCount before)).run [] before characters = .ok () ↔
      ∃ span ending, Span span ∧ Ending ending ∧ '[' :: characters = span ++ ending := by
  constructor
  · intro accepted
    obtain ⟨inner, rest, split, unstopped, stopped⟩ :=
      exists_split (fun character => character = ']' || character = '\x7b') characters
    have closed : ∀ character ∈ inner, character ≠ ']' ∧ character ≠ '\x7b' := by
      simpa using unstopped
    rcases stopped with nothing | ⟨mark, after, same, closes⟩
    · rw [split, nothing, List.append_nil, run_unclosed
        (fun character listed text position => next_span (closed character listed))
        fun text => rfl] at accepted
      cases accepted
    · by_cases bracket : mark = ']'
      · rw [split, same, bracket, run_span_closed closed, run_afterSpan_eq_ok] at accepted
        exact ⟨_, after, .plain closed, accepted, by simp [split, same, bracket]⟩
      · have brace : mark = '\x7b' := by simpa [bracket] using closes
        rw [split, same, brace, run_span_field closed, run_field_eq_ok] at accepted
        obtain ⟨field, ending, braced, fits, isEnding, sameAfter⟩ := accepted
        exact ⟨_, ending, .field closed braced fits, isEnding, by
          simp [split, same, brace, sameAfter]⟩
  · intro found
    obtain ⟨span, ending, isSpan, isEnding, split⟩ := found
    cases isSpan with
    | @plain inner closed =>
        have same : characters = inner ++ ']' :: ending := by simpa using split
        rw [same, run_span_closed closed, run_afterSpan_eq_ok]
        exact isEnding
    | @field inner field closed braced fits =>
        have same : characters = inner ++ '\x7b' :: (field ++ '\x7d' :: ']' :: ending) := by
          simpa using split
        rw [same, run_span_field closed, run_field_eq_ok]
        exact ⟨field, ending, braced, fits, isEnding, rfl⟩

private theorem run_name_equals (written : List Char) :
    Place.name.run [] before ('=' :: written) = Place.afterSpan.run [] before ('=' :: written) := by
  have level : Place.afterSpan.run [] before ('=' :: written) =
      (Place.level (byteCount before + 1)).run [] (before ++ ['=']) written := run_cons rfl
  rw [level]
  apply run_cons
  have done := cut_byteCount [] before ('=' :: (written ++ []))
  rw [List.nil_append] at done
  rw [next]
  exact congrArg (· >>= fun _ => Except.ok _) done

private theorem run_name_span (rest : List Char) :
    Place.name.run [] before ('[' :: rest) =
      (Place.span (byteCount (before ++ ['[']))).run [] (before ++ ['[']) rest := by
  apply run_cons
  have done := cut_byteCount [] before ('[' :: (rest ++ []))
  rw [List.nil_append] at done
  rw [next, byteCount_concat]
  exact congrArg (· >>= fun _ => Except.ok _) done

private theorem run_name_eq_ok :
    Place.name.run [] before characters = .ok () ↔
      ∃ plain span ending, (∀ character ∈ plain, character ≠ '=' ∧ character ≠ '[') ∧
        (span = [] ∨ Span span) ∧ Ending ending ∧ characters = plain ++ (span ++ ending) := by
  constructor
  · intro accepted
    obtain ⟨plain, rest, split, unstopped, stopped⟩ :=
      exists_split (fun character => character = '=' || character = '[') characters
    have isPlain : ∀ character ∈ plain, character ≠ '=' ∧ character ≠ '[' := by
      simpa using unstopped
    rw [split, run_append fun character listed text position =>
      next_name (isPlain character listed)] at accepted
    rcases stopped with nothing | ⟨mark, after, same, stops⟩
    · exact ⟨plain, [], [], isPlain, Or.inl rfl, .nothing, by rw [split, nothing]; rfl⟩
    · by_cases equals : mark = '='
      · rw [same, equals, run_name_equals, run_afterSpan_eq_ok] at accepted
        exact ⟨plain, [], _, isPlain, Or.inl rfl, accepted, by rw [split, same, equals]; rfl⟩
      · have bracket : mark = '[' := by simpa [equals] using stops
        rw [same, bracket, run_name_span, run_span_eq_ok] at accepted
        obtain ⟨span, ending, isSpan, isEnding, spelled⟩ := accepted
        exact ⟨plain, span, ending, isPlain, Or.inr isSpan, isEnding, by
          rw [split, same, bracket, spelled]⟩
  · intro found
    obtain ⟨plain, span, ending, isPlain, spanned, isEnding, split⟩ := found
    rw [split, run_append fun character listed text position =>
      next_name (isPlain character listed)]
    rcases spanned with nothing | isSpan
    · rw [nothing, List.nil_append]
      cases isEnding with
      | nothing => rfl
      | level isLevel =>
          rw [run_name_equals, run_afterSpan_eq_ok]
          exact .level isLevel
    · obtain ⟨others, opened⟩ := isSpan.exists_cons
      rw [opened, List.cons_append, run_name_span, run_span_eq_ok]
      exact ⟨span, ending, isSpan, isEnding, by rw [opened, List.cons_append]⟩

end

end Place

section

variable {first : Char} {rest : List Char}

private theorem isDirective_of_span :
    IsDirective ('[' :: rest) ↔
      ∃ span ending, Span span ∧ Ending ending ∧ '[' :: rest = span ++ ending := by
  constructor
  · intro directive
    obtain ⟨part, ending, isPart, isEnding, split⟩ := directive
    cases isPart with
    | span isSpan => exact ⟨part, ending, isSpan, isEnding, split⟩
    | name begins _ _ =>
        injection split with sameFirst _
        rw [← sameFirst] at begins
        exact absurd begins (by decide +kernel)
  · intro found
    obtain ⟨span, ending, isSpan, isEnding, split⟩ := found
    exact ⟨span, ending, .span isSpan, isEnding, split⟩

private theorem isDirective_of_name (noSpan : first ≠ '[') :
    IsDirective (first :: rest) ↔ beginsName first = true ∧
      ∃ plain span ending, (∀ character ∈ plain, character ≠ '=' ∧ character ≠ '[') ∧
        (span = [] ∨ Span span) ∧ Ending ending ∧ rest = plain ++ (span ++ ending) := by
  constructor
  · intro directive
    obtain ⟨part, ending, isPart, isEnding, split⟩ := directive
    cases isPart with
    | @name _ plain span begins isPlain spanned =>
        injection split with sameFirst sameRest
        refine ⟨sameFirst ▸ begins, plain, span, ending, isPlain, spanned, isEnding, ?_⟩
        rw [sameRest, List.append_eq, List.append_assoc]
    | span isSpan =>
        obtain ⟨others, opened⟩ := isSpan.exists_cons
        rw [opened] at split
        injection split with sameFirst _
        exact absurd sameFirst noSpan
  · intro found
    obtain ⟨begins, plain, span, ending, isPlain, spanned, isEnding, split⟩ := found
    exact ⟨first :: (plain ++ span), ending, .name begins isPlain spanned, isEnding, by
      rw [split, List.cons_append, List.append_assoc]⟩

end

private theorem run_start_eq_ok {text : List Char} (something : text ≠ []) :
    Place.start.run [] [] text = .ok () ↔ IsDirective text := by
  obtain ⟨first, rest, same⟩ := List.exists_cons_of_ne_nil something
  rw [same]
  by_cases bracket : first = '['
  · have span : Place.start.run [] [] ('[' :: rest) =
        (Place.span (byteCount ['['])).run [] ['['] rest := Place.run_cons rfl
    rw [bracket, span, Place.run_span_eq_ok, isDirective_of_span]
  · rw [isDirective_of_name bracket]
    by_cases begins : beginsName first = true
    · have name : Place.start.run [] [] (first :: rest) = Place.name.run [] [first] rest := by
        apply Place.run_cons
        rw [Place.next_start bracket, if_pos begins]
      rw [name, Place.run_name_eq_ok, and_iff_right begins]
    · have refused : Place.start.run [] [] (first :: rest) = .error .malformed := by
        apply Place.run_cons_error
        rw [Place.next_start bracket, if_neg begins]
      rw [refused]
      exact iff_of_false nofun fun found => begins found.1

private theorem checkDirective_eq_run {text : List Char}
    (solid : ∀ first ∈ text.head?, isBlank first = false) :
    ∃ trailing, checkDirective text = Place.start.run trailing [] (trimBlank text) ∧
      text = trimBlank text ++ trailing := by
  obtain ⟨_, trailing, _, split⟩ := dropTrailing_eq_iff.1 (Eq.refl (trimBlank text))
  rw [dropBlank_eq_self solid] at split
  refine ⟨trailing, ?_, split⟩
  rw [Place.run, List.nil_append, ← split]
  rfl

theorem checkDirective_ne_insideCharacter {text : List Char}
    (solid : ∀ first ∈ text.head?, isBlank first = false) :
    checkDirective text ≠ .error .insideCharacter := by
  obtain ⟨trailing, same, _⟩ := checkDirective_eq_run solid
  rw [same]
  exact Place.run_ne_insideCharacter (Place.sound_of_kept?_eq_none rfl []) trailing

theorem checkDirective_eq_ok_iff {text : List Char} (phrase : IsPhrase text) :
    checkDirective text = .ok () ↔ IsDirective text := by
  have trimmed : trimBlank text = text := by
    rw [trimBlank, dropBlank_eq_self phrase.starts, dropTrailing_eq_self_iff.2 phrase.ends]
  obtain ⟨trailing, same, split⟩ := checkDirective_eq_run phrase.starts
  rw [trimmed, List.self_eq_append_right] at split
  rw [same, trimmed, split, run_start_eq_ok phrase.something]

/-- Any value without an equals sign can be asked of a field, by the pattern that escapes it. -/
theorem isField_of_escaped {name value : List Char} (something : name ≠ [])
    (plainName : ∀ character ∈ name, character ≠ '=')
    (plainValue : ∀ character ∈ value, character ≠ '=') :
    isField (name ++ '=' :: value.flatMap Pattern.escaped) = true := by
  have plainPattern : ∀ character ∈ value.flatMap Pattern.escaped, character ≠ '=' := by
    intro character listed
    obtain ⟨original, inValue, written⟩ := List.mem_flatMap.1 listed
    unfold Pattern.escaped at written
    split at written
    · rcases List.mem_pair.1 written with backslash | same
      · rw [backslash]
        decide
      · rw [same]
        exact plainValue original inValue
    · rw [List.mem_singleton.1 written]
      exact plainValue original inValue
  have given : fieldValue? (name ++ '=' :: value.flatMap Pattern.escaped) =
      some (value.flatMap Pattern.escaped) := by
    have dropped : (name ++ '=' :: value.flatMap Pattern.escaped).dropWhile
        (fun character => decide (character ≠ '=')) = '=' :: value.flatMap Pattern.escaped :=
      dropWhile_eq_iff.2 ⟨by simp, name, by simpa using plainName, rfl⟩
    have taken : (value.flatMap Pattern.escaped).takeWhile
        (fun character => decide (character ≠ '=')) = value.flatMap Pattern.escaped :=
      List.takeWhile_eq_self_iff.2 fun character listed =>
        decide_eq_true (plainPattern character listed)
    rw [fieldValue?, dropped]
    exact congrArg some taken
  rw [isField, given, Option.all_some, Pattern.isPattern_flatMap_escaped]
  simp [something]

/-! ## Lists of directives -/

private theorem pieces_eq_splitOn (text : List Char) : pieces text = text.splitOn ',' := by
  induction text with
  | nil => rfl
  | cons first rest inductionHypothesis =>
      have split : (first :: rest).splitOn ',' =
          if first = ',' then [] :: rest.splitOn ','
          else (rest.splitOn ',').modifyHead (first :: ·) := by
        simp [List.splitOn, List.splitOnP_cons_eq_if_modifyHead]
      rw [pieces, inductionHypothesis, split]
      cases pieces : rest.splitOn ',' with
      | nil => exact absurd pieces (List.splitOn_ne_nil ',' rest)
      | cons piece others => rfl

private theorem forM_eq_ok {α : Type} {items : List α} {act : α → Except Flaw Unit} :
    items.forM act = .ok () ↔ ∀ item ∈ items, act item = .ok () := by
  induction items with
  | nil => simp [pure, Except.pure]
  | cons first others inductionHypothesis =>
      rw [List.forM, bind_eq_ok, List.forall_mem_cons, ← inductionHypothesis]
      constructor
      · intro accepted
        obtain ⟨_, tried, later⟩ := accepted
        exact ⟨tried, later⟩
      · intro accepted
        exact ⟨(), accepted⟩

private theorem exists_of_forM_eq_error {α : Type} {items : List α}
    {act : α → Except Flaw Unit} {flaw : Flaw} (failed : items.forM act = .error flaw) :
    ∃ item ∈ items, act item = .error flaw := by
  induction items with
  | nil => cases failed
  | cons first others inductionHypothesis =>
      rw [List.forM] at failed
      cases tried : act first with
      | error other =>
          rw [tried] at failed
          exact ⟨first, List.mem_cons_self, tried.trans failed⟩
      | ok _ =>
          rw [tried] at failed
          obtain ⟨item, listed, fails⟩ := inductionHypothesis failed
          exact ⟨item, List.mem_cons_of_mem first listed, fails⟩

/-- Where no blanks stand around the directives, a text is a log filter exactly if whatever
stands between its commas is nothing or a directive. -/
theorem check_eq_ok_iff {text : String}
    (phrases : ∀ piece ∈ text.toList.splitOn ',', piece ≠ [] → IsPhrase piece) :
    check text = .ok () ↔ ∀ piece ∈ text.toList.splitOn ',', piece ≠ [] → IsDirective piece := by
  rw [check, forM_eq_ok, pieces_eq_splitOn]
  simp only [List.mem_filter, Bool.not_eq_true', List.isEmpty_eq_false_iff, and_imp]
  constructor
  · intro accepted piece listed something
    exact (checkDirective_eq_ok_iff (phrases piece listed something)).1
      (accepted piece listed something)
  · intro directives piece listed something
    exact (checkDirective_eq_ok_iff (phrases piece listed something)).2
      (directives piece listed something)

example : check "sheetflow_core[edit]=debug,warn" = .ok () := by decide +kernel

/-- A cut falls inside a character only where blanks stand before a directive. -/
theorem exists_blank_of_check_eq_error {text : String}
    (failed : check text = .error .insideCharacter) :
    ∃ piece ∈ text.toList.splitOn ',', ∃ first ∈ piece.head?, isBlank first = true := by
  obtain ⟨piece, listed, fails⟩ := exists_of_forM_eq_error failed
  rw [pieces_eq_splitOn] at listed
  refine ⟨piece, (List.mem_filter.1 listed).1, ?_⟩
  by_contra noBlank
  refine checkDirective_ne_insideCharacter (fun first isFirst => ?_) fails
  exact Bool.eq_false_iff.2 fun blank => noBlank ⟨first, isFirst, blank⟩

example : check " \u00e9=warn" = .error .insideCharacter := by decide +kernel

end LogFilter

namespace Session

/-- The program breaks down over its log filter only where blanks stand before a directive in
the filter of the environment or in that of the options. -/
theorem exists_blank_of_checkLogFilter_eq_error {options : Options}
    {environment : String → Option String}
    (failed : checkLogFilter options environment = .error .insideCharacter) :
    ∃ filter, (environment logVariable = some filter ∨ options.log = filter) ∧
      ∃ piece ∈ filter.toList.splitOn ',', ∃ first ∈ piece.head?, Text.isBlank first = true := by
  unfold checkLogFilter at failed
  split at failed
  · cases failed
  · next checked =>
      obtain ⟨filter, given, breaks⟩ := Option.map_eq_some_iff.1 checked
      exact ⟨filter, Or.inl given, LogFilter.exists_blank_of_check_eq_error breaks⟩
  · exact ⟨options.log, Or.inr rfl, LogFilter.exists_blank_of_check_eq_error failed⟩

end Session

end Reckon
