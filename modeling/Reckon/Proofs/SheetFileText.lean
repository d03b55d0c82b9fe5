import Reckon.SheetFile.Basic

/-!
Files of sheets are read as they are written: every text between quotation marks comes
back character for character, the tokens of a written file are those of its version and
its cells, and the value that they build has exactly the fields of the file.
-/

namespace Reckon

namespace Json

/-! ## String literals -/

private theorem toNat_not_surrogate (character : Char) :
    ¬ (0xD800 ≤ character.toNat ∧ character.toNat < 0xE000) := by
  have valid : character.toNat.isValidChar := character.valid
  rcases valid with below | ⟨above, _⟩
  · omega
  · omega

private theorem textOfCodes?_map_toNat (text : List Char) :
    textOfCodes? (text.map Char.toNat) = some text := by
  induction text with
  | nil => rfl
  | cons first rest inductionHypothesis =>
      have whole := toNat_not_surrogate first
      rw [List.map_cons]
      unfold textOfCodes?
      rw [if_neg (by omega), if_neg (by omega), inductionHypothesis, Option.map_some,
        Char.ofNat_toNat]

private theorem hexValue?_hexDigit {value : Nat} (small : value < 16) :
    Text.hexValue? (Text.hexDigit value) = some value := by
  have all : ∀ other < 16, Text.hexValue? (Text.hexDigit other) = some other := by decide
  exact all value small

def withCode (code : Nat) (read : Option (List Nat × List Char)) :
    Option (List Nat × List Char) :=
  read.map fun (codes, after) => (code :: codes, after)

private theorem readCodes_short
    {short character : Char} (escape : shortEscape? short = some character) (rest : List Char) :
    readCodes ('\\' :: short :: rest) = withCode character.toNat (readCodes rest) := by
  rw [readCodes.eq_3]
  · rw [escape]
    cases readCodes rest <;> rfl
  · rintro first second third fourth others rfl
    cases escape

private theorem readCodes_control {code : Nat} (control : code < 0x20) (rest : List Char) :
    readCodes ('\\' :: 'u' :: '0' :: '0' :: Text.hexDigit (code / 16) ::
        Text.hexDigit (code % 16) :: rest) =
      withCode code (readCodes rest) := by
  have unit : codeUnit? '0' '0' (Text.hexDigit (code / 16)) (Text.hexDigit (code % 16)) =
      some code := by
    have zero : Text.hexValue? '0' = some 0 := rfl
    simp only [codeUnit?, zero, hexValue?_hexDigit (show code / 16 < 16 by omega),
      hexValue?_hexDigit (show code % 16 < 16 by omega), Option.bind_eq_bind, Option.bind_some]
    congr 1
    omega
  rw [readCodes, unit]
  cases readCodes rest <;> rfl

private theorem readCodes_plain
    {character : Char} (visible : ¬ character.toNat < 0x20) (noQuote : character ≠ '"')
    (noBackslash : character ≠ '\\') (rest : List Char) :
    readCodes (character :: rest) = withCode character.toNat (readCodes rest) := by
  rw [readCodes.eq_4 _ _ noQuote (fun _ _ _ _ _ backslash _ => noBackslash backslash)
    (fun _ _ backslash _ => noBackslash backslash), if_pos ⟨by omega, noBackslash⟩]
  cases readCodes rest <;> rfl

/-- Every character is read as its code, whether it is escaped or not. -/
theorem readCodes_escaped_append (character : Char) (rest : List Char) :
    readCodes (escaped character ++ rest) = withCode character.toNat (readCodes rest) := by
  unfold escaped
  split
  · exact readCodes_short rfl rest
  · exact readCodes_short rfl rest
  · exact readCodes_short rfl rest
  · exact readCodes_short rfl rest
  · exact readCodes_short rfl rest
  · exact readCodes_short rfl rest
  · exact readCodes_short rfl rest
  · next noQuote noBackslash _ _ _ _ _ =>
      split
      · next control => exact readCodes_control control rest
      · next visible => exact readCodes_plain visible noQuote noBackslash rest

private theorem readCodes_flatMap_escaped (text rest : List Char) :
    readCodes (text.flatMap escaped ++ '"' :: rest) = some (text.map Char.toNat, rest) := by
  induction text with
  | nil => rw [List.flatMap_nil, List.nil_append, readCodes, List.map_nil]
  | cons first others inductionHypothesis =>
      rw [List.flatMap_cons, List.append_assoc, readCodes_escaped_append, inductionHypothesis]
      rfl

/-! ## Tokens -/

namespace Token

private theorem scan_space {space : Char} (isSpace : isSpace space = true) (rest : List Char) :
    scan (space :: rest) = scan rest := by
  rw [scan, if_pos isSpace]

private theorem scan_cons_of_scanOne
    {first : Char} {remaining rest : List Char} {token : Token}
    (solid : isSpace first = false) (scanned : scanOne first remaining = some (token, rest)) :
    scan (first :: remaining) = (scan rest).map (token :: ·) := by
  rw [scan, if_neg (by simp [solid])]
  split
  · next failed =>
      rw [scanned] at failed
      cases failed
  · next found after succeeded =>
      rw [scanned] at succeeded
      injection succeeded with same
      injection same with sameToken sameRest
      rw [sameToken, sameRest]

private theorem scan_mark
    {mark : Char} {token : Token} (marks : ofMark? mark = some token) (rest : List Char) :
    scan (mark :: rest) = (scan rest).map (token :: ·) := by
  apply scan_cons_of_scanOne
  · unfold ofMark? at marks
    split at marks
    all_goals first | rfl | cases marks
  · unfold scanOne
    rw [marks]

/-- The literal of a text is one token, which holds the text. -/
theorem scan_literal_append (text : String) (rest : List Char) :
    scan (literal text ++ rest) = (scan rest).map (.string (some text) :: ·) := by
  have spelled : literal text ++ rest = '"' :: (text.toList.flatMap escaped ++ '"' :: rest) := by
    rw [literal, List.cons_append, List.cons_append, List.append_assoc]
    rfl
  have scanned : scanOne '"' (text.toList.flatMap escaped ++ '"' :: rest) =
      (readCodes (text.toList.flatMap escaped ++ '"' :: rest)).map fun (codes, after) =>
        (.string ((textOfCodes? codes).map String.ofList), after) := rfl
  rw [readCodes_flatMap_escaped, Option.map_some] at scanned
  dsimp only at scanned
  rw [textOfCodes?_map_toNat, Option.map_some, String.ofList_toList] at scanned
  rw [spelled]
  exact scan_cons_of_scanOne rfl scanned

/-! ## Texts of tokens -/

/-- Wherever the text stands, it is read as the tokens and ends the last of them. -/
def Scans (text : List Char) (tokens : List Token) : Prop :=
  ∀ rest, scan (text ++ rest) = (scan rest).map (tokens ++ ·)

private theorem scans_nil : Scans [] [] := fun rest =>
  (congrFun Option.map_id (scan rest)).symm

theorem Scans.append
    {left right : List Char} {leftTokens rightTokens : List Token}
    (scansLeft : Scans left leftTokens) (scansRight : Scans right rightTokens) :
    Scans (left ++ right) (leftTokens ++ rightTokens) := by
  intro rest
  rw [List.append_assoc, scansLeft, scansRight, Option.map_map]
  congr 1
  funext tokens
  exact (List.append_assoc leftTokens rightTokens tokens).symm

theorem Scans.flatMap
    {α : Type} {items : List α} {text : α → List Char} {tokens : α → List Token}
    (scans : ∀ item ∈ items, Scans (text item) (tokens item)) :
    Scans (items.flatMap text) (items.flatMap tokens) := by
  induction items with
  | nil => exact scans_nil
  | cons first rest inductionHypothesis =>
      obtain ⟨scansFirst, scansRest⟩ := List.forall_mem_cons.1 scans
      exact scansFirst.append (inductionHypothesis scansRest)

private theorem scans_spaces {spaces : List Char} (allSpaces : spaces.all isSpace = true) :
    Scans spaces [] := by
  intro rest
  induction spaces with
  | nil => exact scans_nil rest
  | cons space others inductionHypothesis =>
      obtain ⟨first, remaining⟩ := Bool.and_eq_true_iff.1 allSpaces
      rw [List.cons_append, scan_space first]
      exact inductionHypothesis remaining

private theorem scans_literal (text : String) : Scans (literal text) [.string (some text)] :=
  scan_literal_append text

private theorem scans_null : Scans "null".toList [.null] := fun _ =>
  scan_cons_of_scanOne (by rfl) (by rfl)

private theorem scans_mark
    {mark : Char} {token : Token} (marks : ofMark? mark = some token)
    {before after : List Char} (allBefore : before.all isSpace = true)
    (allAfter : after.all isSpace = true) :
    Scans (before ++ mark :: after) [token] := by
  have alone : Scans [mark] [token] := scan_mark marks
  exact (scans_spaces allBefore).append (alone.append (scans_spaces allAfter))

private theorem scans_key
    {mark : Char} {token : Token} (marks : ofMark? mark = some token)
    {before after : List Char} (allBefore : before.all isSpace = true)
    (allAfter : after.all isSpace = true) (key : String) :
    Scans (before ++ mark :: after ++ literal key ++ [':', ' '])
      [token, .string (some key), .colon] := by
  have colon : Scans [':', ' '] [.colon] := @scans_mark ':' .colon rfl [] [' '] rfl rfl
  exact ((scans_mark marks allBefore allAfter).append (scans_literal key)).append colon

end Token

end Json

open Json

/-! ## The tokens of a file -/

def contentsToken : Option String → Json.Token
  | some text => .string (some text)
  | none => .null

def CellEntry.tokens (entry : CellEntry) : List Json.Token :=
  [.openObject, .string (some "name"), .colon] ++ [.string (some entry.name)] ++
    [.comma, .string (some "contents"), .colon] ++ [contentsToken entry.contents] ++
    [.closeObject]

def cellsTokens : List CellEntry → List Json.Token
  | [] => [.openArray, .closeArray]
  | first :: rest =>
      [.openArray] ++ first.tokens ++ rest.flatMap (fun entry => [.comma] ++ entry.tokens) ++
        [.closeArray]

def SheetFile.tokens (file : SheetFile) : List Json.Token :=
  [.openObject, .string (some "version"), .colon] ++ [.string (some file.version)] ++
    [.comma, .string (some "cells"), .colon] ++ cellsTokens file.cells ++ [.closeObject]

private theorem scans_writeOptional (contents : Option String) :
    Json.Token.Scans (writeOptional contents) [contentsToken contents] := by
  cases contents with
  | some text => exact Json.Token.scans_literal text
  | none => exact Json.Token.scans_null

private theorem CellEntry.scans_write (entry : CellEntry) :
    Json.Token.Scans entry.write entry.tokens := by
  have nameKey : Json.Token.Scans "    \x7b\n      \"name\": ".toList
      [.openObject, .string (some "name"), .colon] :=
    @Json.Token.scans_key '\x7b' .openObject rfl "    ".toList "\n      ".toList rfl rfl "name"
  have contentsKey : Json.Token.Scans ",\n      \"contents\": ".toList
      [.comma, .string (some "contents"), .colon] :=
    @Json.Token.scans_key ',' .comma rfl [] "\n      ".toList rfl rfl "contents"
  have closing : Json.Token.Scans "\n    \x7d".toList [.closeObject] :=
    @Json.Token.scans_mark '\x7d' .closeObject rfl "\n    ".toList [] rfl rfl
  exact (((nameKey.append (Json.Token.scans_literal entry.name)).append contentsKey).append
    (scans_writeOptional entry.contents)).append closing

private theorem scans_writeCells (cells : List CellEntry) :
    Json.Token.Scans (writeCells cells) (cellsTokens cells) := by
  have closing : Json.Token.Scans "\n  ]".toList [.closeArray] :=
    @Json.Token.scans_mark ']' .closeArray rfl "\n  ".toList [] rfl rfl
  cases cells with
  | nil =>
      have opening : Json.Token.Scans ['['] [.openArray] :=
        @Json.Token.scans_mark '[' .openArray rfl [] [] rfl rfl
      exact opening.append (@Json.Token.scans_mark ']' .closeArray rfl [] [] rfl rfl)
  | cons first rest =>
      have opening : Json.Token.Scans "[\n".toList [.openArray] :=
        @Json.Token.scans_mark '[' .openArray rfl [] "\n".toList rfl rfl
      have comma : Json.Token.Scans ",\n".toList [.comma] :=
        @Json.Token.scans_mark ',' .comma rfl [] "\n".toList rfl rfl
      have others := Json.Token.Scans.flatMap fun entry (_ : entry ∈ rest) =>
        comma.append entry.scans_write
      exact ((opening.append first.scans_write).append others).append closing

theorem SheetFile.scan_write (file : SheetFile) :
    Json.Token.scan file.write.toList = some file.tokens := by
  have versionKey : Json.Token.Scans "\x7b\n  \"version\": ".toList
      [.openObject, .string (some "version"), .colon] :=
    @Json.Token.scans_key '\x7b' .openObject rfl [] "\n  ".toList rfl rfl "version"
  have cellsKey : Json.Token.Scans ",\n  \"cells\": ".toList
      [.comma, .string (some "cells"), .colon] :=
    @Json.Token.scans_key ',' .comma rfl [] "\n  ".toList rfl rfl "cells"
  have closing : Json.Token.Scans "\n\x7d".toList [.closeObject] :=
    @Json.Token.scans_mark '\x7d' .closeObject rfl "\n".toList [] rfl rfl
  have version := Json.Token.scans_literal file.version
  have whole := (((versionKey.append version).append cellsKey).append
    (scans_writeCells file.cells)).append closing
  have written : file.write.toList =
      "\x7b\n  \"version\": ".toList ++ literal file.version ++ ",\n  \"cells\": ".toList ++
        writeCells file.cells ++ "\n\x7d".toList := String.toList_ofList
  rw [← written] at whole
  have atEnd := whole []
  rw [List.append_nil, Json.Token.scan, Option.map_some, List.append_nil] at atEnd
  exact atEnd

/-! ## The value of a file -/

def contentsJson : Option String → Json
  | some text => .string (some text)
  | none => .null

def CellEntry.json (entry : CellEntry) : Json :=
  .object [(some "name", .string (some entry.name)), (some "contents", contentsJson entry.contents)]

def SheetFile.json (file : SheetFile) : Json :=
  .object [(some "version", .string (some file.version)),
    (some "cells", .array (file.cells.map CellEntry.json))]

open Reading

private theorem foldlM_step_append
    {left : List Json.Token} {start middle : Reading} (first : left.foldlM step start = some middle)
    (right : List Json.Token) :
    (left ++ right).foldlM step start = right.foldlM step middle := by
  rw [List.foldlM_append, first, Option.bind_eq_bind, Option.bind_some]

/-- The tokens of an entry build its value, where a value or a first item may come. -/
theorem CellEntry.foldlM_step_tokens
    (entry : CellEntry) {place : Place} (items : List Json) (below : List Frame)
    (opens : place = .value ∨ place = .firstItem) :
    entry.tokens.foldlM step ⟨place, .array items :: below⟩ =
      some ⟨.next, .array (entry.json :: items) :: below⟩ := by
  obtain ⟨name, contents⟩ := entry
  rcases opens with rfl | rfl
  · cases contents <;> rfl
  · cases contents <;> rfl

private theorem foldlM_step_others
    (entries : List CellEntry) (items : List Json) (below : List Frame) :
    (entries.flatMap fun entry => [.comma] ++ entry.tokens).foldlM step
        ⟨.next, .array items :: below⟩ =
      some ⟨.next, .array ((entries.map CellEntry.json).reverse ++ items) :: below⟩ := by
  induction entries generalizing items with
  | nil => rfl
  | cons entry later inductionHypothesis =>
      have comma : [Json.Token.comma].foldlM step ⟨.next, .array items :: below⟩ =
          some ⟨.value, .array items :: below⟩ := rfl
      have one := entry.foldlM_step_tokens items below (Or.inl rfl)
      rw [List.flatMap_cons, List.append_assoc, foldlM_step_append comma,
        foldlM_step_append one, inductionHypothesis, List.map_cons, List.reverse_cons,
        List.append_assoc]
      rfl

/-- The tokens of the cells build the array of their values, where it is to be the value
of a member. -/
theorem foldlM_step_cellsTokens
    (cells : List CellEntry) (members : List (Option String × Json)) (key : Option String)
    (below : List Frame) :
    (cellsTokens cells).foldlM step ⟨.value, .member members key :: below⟩ =
      some ⟨.next, .object ((key, .array (cells.map CellEntry.json)) :: members) :: below⟩ := by
  cases cells with
  | nil => rfl
  | cons first rest =>
      have opening : [Json.Token.openArray].foldlM step ⟨.value, .member members key :: below⟩ =
          some ⟨.firstItem, .array [] :: .member members key :: below⟩ := rfl
      have one := first.foldlM_step_tokens [] (.member members key :: below) (Or.inr rfl)
      have others := foldlM_step_others rest [first.json] (.member members key :: below)
      have closing : [Json.Token.closeArray].foldlM step
          ⟨.next, .array ((rest.map CellEntry.json).reverse ++ [first.json]) ::
            .member members key :: below⟩ =
          some ⟨.next, .object ((key, .array
            ((rest.map CellEntry.json).reverse ++ [first.json]).reverse) :: members) ::
              below⟩ := rfl
      unfold cellsTokens
      dsimp only
      rw [List.append_assoc, List.append_assoc, foldlM_step_append opening,
        foldlM_step_append one, foldlM_step_append others, closing, List.reverse_append,
        List.reverse_reverse]
      rfl

theorem SheetFile.ofTokens?_tokens (file : SheetFile) :
    Json.ofTokens? file.tokens = some file.json := by
  have opening : List.foldlM step start
      ([Json.Token.openObject, .string (some "version"), .colon] ++ [.string (some file.version)] ++
        [.comma, .string (some "cells"), .colon]) =
      some ⟨.value, [.member [(some "version", .string (some file.version))] (some "cells")]⟩ := rfl
  have closing : [Json.Token.closeObject].foldlM step
      ⟨.next, [.object [(some "cells", .array (file.cells.map CellEntry.json)),
        (some "version", .string (some file.version))]]⟩ = some ⟨.complete file.json, []⟩ := rfl
  unfold Json.ofTokens? SheetFile.tokens
  rw [List.append_assoc, foldlM_step_append opening,
    foldlM_step_append (foldlM_step_cellsTokens _ _ _ _), closing]
  rfl

/-! ## The file of a value -/

theorem CellEntry.ofJson?_json (entry : CellEntry) : CellEntry.ofJson? entry.json = some entry := by
  obtain ⟨name, contents⟩ := entry
  cases contents <;> rfl

private theorem cellsOfJson?_array (cells : List CellEntry) :
    cellsOfJson? (.array (cells.map CellEntry.json)) = some cells := by
  unfold cellsOfJson?
  dsimp only
  induction cells with
  | nil => rfl
  | cons first rest inductionHypothesis =>
      rw [List.map_cons, List.mapM_cons, CellEntry.ofJson?_json, inductionHypothesis]
      rfl

theorem SheetFile.ofJson?_json (file : SheetFile) : SheetFile.ofJson? file.json = some file := by
  have record : file.json.record? false ["version", "cells"] =
      some [some (.string (some file.version)),
        some (.array (file.cells.map CellEntry.json))] := rfl
  unfold SheetFile.ofJson?
  rw [record]
  simp [cellsOfJson?_array, string?]

/-- A file is read as it is written. -/
theorem SheetFile.ofText?_write (file : SheetFile) :
    SheetFile.ofText? file.write = some file := by
  rw [ofText?, Json.ofText?, scan_write, Option.bind_some, ofTokens?_tokens, Option.bind_some,
    ofJson?_json]

end Reckon
