import Mathlib.Data.List.Forall2
import Mathlib.Data.List.Nodup
import Reckon.Proofs.SheetFileText

/-!
What JSON values say of sheet files. An object says it by its members, none of which is
unknown or comes twice, and an array by the order of its items. Contents that are missing or
null are absent, which is not the same as an empty text. What is read from a value is what
it says, and the value of a written file says this file and no other.
-/

namespace Reckon

namespace Json

/-! ## Fields of records -/

inductive Field (members : List (Option String × Json)) (key : String) : Option Json → Prop where
  | present {value : Json} (listed : (some key, value) ∈ members) : Field members key (some value)
  | absent (unlisted : some key ∉ members.map Prod.fst) : Field members key none

/-- The fields of a record, one for each name, with none for those that are missing. -/
inductive Record (names : List String) : Json → List (Option Json) → Prop where
  | object {members : List (Option String × Json)} {fields : List (Option Json)}
      (named : ∀ key ∈ members.map Prod.fst, ∃ name ∈ names, key = some name)
      (once : (members.map Prod.fst).Nodup)
      (held : List.Forall₂ (Field members) names fields) : Record names (.object members) fields
  | array {items : List Json} (few : items.length ≤ names.length) :
      Record names (.array items)
        (items.map some ++ List.replicate (names.length - items.length) none)

section Members

variable {key : String} {members : List (Option String × Json)}

private theorem length_filter_key (key : String) (members : List (Option String × Json)) :
    (members.filter fun member => member.1 = some key).length =
      (members.map Prod.fst).count (some key) := by
  rw [List.count_eq_countP, List.countP_map, List.countP_eq_length_filter]
  congr 1
  apply List.filter_congr
  intro member _
  exact (beq_eq_decide member.1 (some key)).symm

private theorem field_some_iff {value : Json} :
    Field members key (some value) ↔
      (some key, value) ∈ members.filter fun member => member.1 = some key := by
  rw [List.mem_filter]
  constructor
  · rintro ⟨listed⟩
    exact ⟨listed, decide_eq_true rfl⟩
  · rintro ⟨listed, _⟩
    exact .present listed

private theorem field_none_iff :
    Field members key none ↔ (members.map Prod.fst).count (some key) = 0 := by
  rw [List.count_eq_zero]
  constructor
  · intro held
    cases held with
    | absent unlisted => exact unlisted
  · exact .absent

/-- A key has a value that is unique if no two members have the key. -/
theorem unique?_eq_some_iff {value : Option Json} :
    unique? key members = some value ↔
      (members.map Prod.fst).count (some key) ≤ 1 ∧ Field members key value := by
  have length := length_filter_key key members
  unfold unique?
  cases found : members.filter fun member => member.1 = some key with
  | nil =>
      rw [found, List.length_nil] at length
      cases value with
      | none => simp [field_none_iff, ← length]
      | some value => simp [field_some_iff, found]
  | cons member others =>
      rw [found, List.length_cons] at length
      cases others with
      | nil =>
          have same : member.1 = some key := by
            have listed : member ∈ members.filter fun member => member.1 = some key := by
              rw [found]
              exact List.mem_singleton_self member
            exact of_decide_eq_true (List.mem_filter.1 listed).2
          cases value with
          | none => simp [field_none_iff, ← length]
          | some value =>
              simp [field_some_iff, found, ← length, Prod.ext_iff, same, eq_comm]
      | cons second others =>
          rw [List.length_cons] at length
          simp [← length]

end Members

private theorem mapM_eq_some_iff {α β : Type} {f : α → Option β} {items : List α}
    {results : List β} :
    items.mapM f = some results ↔
      List.Forall₂ (fun item result => f item = some result) items results := by
  induction items generalizing results with
  | nil => simp [eq_comm]
  | cons first rest inductionHypothesis =>
      simp only [List.mapM_cons, Option.bind_eq_bind, Option.bind_eq_some_iff, Option.pure_def,
        Option.some.injEq, List.forall₂_cons_left_iff, inductionHypothesis]
      constructor
      · rintro ⟨head, headFound, tail, tailFound, rfl⟩
        exact ⟨head, tail, headFound, tailFound, rfl⟩
      · rintro ⟨head, tail, headFound, tailFound, rfl⟩
        exact ⟨head, headFound, tail, tailFound, rfl⟩

/-- Keys that all are names come once each if none of the names comes twice among them. -/
theorem nodup_iff_count_name_le_one {names : List String} {keys : List (Option String)}
    (named : ∀ key ∈ keys, ∃ name ∈ names, key = some name) :
    keys.Nodup ↔ ∀ name ∈ names, keys.count (some name) ≤ 1 := by
  rw [List.nodup_iff_count_le_one]
  constructor
  · intro once name _
    exact once (some name)
  · intro once key
    by_cases listed : key ∈ keys
    · obtain ⟨name, isName, rfl⟩ := named key listed
      exact once name isName
    · rw [List.count_eq_zero_of_not_mem listed]
      exact Nat.zero_le 1

/-- The members of an object are those of a record if their keys are names and every name
has at most one value. -/
theorem record?_object_eq_some_iff
    {names : List String} {members : List (Option String × Json)} {fields : List (Option Json)} :
    (object members).record? false names = some fields ↔
      (∀ key ∈ members.map Prod.fst, ∃ name ∈ names, key = some name) ∧
        (members.map Prod.fst).Nodup ∧ List.Forall₂ (Field members) names fields := by
  have known : (members.all fun member =>
      member.1.any fun key => false || names.contains key) = true ↔
        ∀ key ∈ members.map Prod.fst, ∃ name ∈ names, key = some name := by
    simp [List.all_eq_true, Option.any_eq_true, and_comm]
  have values : (names.mapM fun name => unique? name members) = some fields ↔
      (∀ name ∈ names, (members.map Prod.fst).count (some name) ≤ 1) ∧
        List.Forall₂ (Field members) names fields := by
    simp only [mapM_eq_some_iff, unique?_eq_some_iff, List.forall₂_and_left]
  rw [record?]
  by_cases named : ∀ key ∈ members.map Prod.fst, ∃ name ∈ names, key = some name
  · rw [if_pos (known.2 named), values, nodup_iff_count_name_le_one named]
    exact (and_iff_right named).symm
  · rw [if_neg fun all => named (known.1 all)]
    exact ⟨fun impossible => (by cases impossible), fun record => (named record.1).elim⟩

theorem record?_eq_some_iff {names : List String} {json : Json} {fields : List (Option Json)} :
    json.record? false names = some fields ↔ Record names json fields := by
  constructor
  · intro read
    cases json with
    | object members =>
        obtain ⟨named, once, held⟩ := record?_object_eq_some_iff.1 read
        exact .object named once held
    | array items =>
        rw [record?] at read
        by_cases few : items.length ≤ names.length
        · rw [if_pos few] at read
          injection read with same
          rw [← same]
          exact .array few
        · rw [if_neg few] at read
          cases read
    | null => cases read
    | bool _ => cases read
    | number _ => cases read
    | string _ => cases read
  · intro record
    cases record with
    | object named once held => exact record?_object_eq_some_iff.2 ⟨named, once, held⟩
    | array few => rw [record?, if_pos few]

theorem string?_eq_some_iff {json : Json} {text : String} :
    json.string? = some text ↔ json = .string (some text) := by
  cases json <;> simp [string?]

end Json

open Json

/-! ## Entries and files -/

inductive OptionalText : Option Json → Option String → Prop where
  | missing : OptionalText none none
  | null : OptionalText (some .null) none
  | given (text : String) : OptionalText (some (.string (some text))) (some text)

def CellEntry.DescribedBy (entry : CellEntry) (json : Json) : Prop :=
  ∃ contents, Record ["name", "contents"] json [some (.string (some entry.name)), contents] ∧
    OptionalText contents entry.contents

inductive ListedCells : Option Json → List CellEntry → Prop where
  | missing : ListedCells none []
  | listed {cells : List CellEntry} {items : List Json}
      (each : List.Forall₂ (fun json entry => entry.DescribedBy json) items cells) :
      ListedCells (some (.array items)) cells

/-- The value is a record of the version and the cells. -/
def SheetFile.DescribedBy (file : SheetFile) (json : Json) : Prop :=
  ∃ cells, Record ["version", "cells"] json [some (.string (some file.version)), cells] ∧
    ListedCells cells file.cells

theorem CellEntry.ofJson?_eq_some_iff {entry : CellEntry} {json : Json} :
    CellEntry.ofJson? json = some entry ↔ entry.DescribedBy json := by
  obtain ⟨name, contents⟩ := entry
  unfold CellEntry.ofJson?
  rw [Option.bind_eq_bind, Option.bind_eq_some_iff]
  constructor
  · rintro ⟨fields, record, read⟩
    rw [record?_eq_some_iff] at record
    split at read
    case h_1 named =>
      obtain ⟨text, isText, made⟩ := Option.bind_eq_some_iff.1 read
      cases made
      rw [string?_eq_some_iff] at isText
      subst isText
      exact ⟨none, record, .missing⟩
    case h_2 named =>
      obtain ⟨text, isText, made⟩ := Option.bind_eq_some_iff.1 read
      cases made
      rw [string?_eq_some_iff] at isText
      subst isText
      exact ⟨some .null, record, .null⟩
    case h_3 named given _ =>
      obtain ⟨text, isText, read⟩ := Option.bind_eq_some_iff.1 read
      obtain ⟨contents, isContents, made⟩ := Option.bind_eq_some_iff.1 read
      cases made
      rw [string?_eq_some_iff] at isText isContents
      subst isText isContents
      exact ⟨_, record, .given contents⟩
    case h_4 => cases read
  · rintro ⟨field, record, optional⟩
    refine ⟨_, record?_eq_some_iff.2 record, ?_⟩
    cases optional with
    | missing => rfl
    | null => rfl
    | given => rfl

theorem cellsOfJson?_eq_some_iff {json : Json} {cells : List CellEntry} :
    cellsOfJson? json = some cells ↔ ListedCells (some json) cells := by
  constructor
  · intro read
    cases json with
    | array items =>
        have each := mapM_eq_some_iff.1 read
        simp only [CellEntry.ofJson?_eq_some_iff] at each
        exact .listed each
    | null => cases read
    | bool _ => cases read
    | number _ => cases read
    | string _ => cases read
    | object _ => cases read
  · intro listed
    cases listed with
    | listed each =>
        simp only [← CellEntry.ofJson?_eq_some_iff] at each
        exact mapM_eq_some_iff.2 each

theorem SheetFile.ofJson?_eq_some_iff {file : SheetFile} {json : Json} :
    ofJson? json = some file ↔ file.DescribedBy json := by
  obtain ⟨version, cells⟩ := file
  unfold ofJson?
  rw [Option.bind_eq_bind, Option.bind_eq_some_iff]
  constructor
  · rintro ⟨fields, record, read⟩
    rw [record?_eq_some_iff] at record
    split at read
    case h_1 named =>
      obtain ⟨text, isText, made⟩ := Option.bind_eq_some_iff.1 read
      cases made
      rw [string?_eq_some_iff] at isText
      subst isText
      exact ⟨none, record, .missing⟩
    case h_2 named listed =>
      obtain ⟨text, isText, read⟩ := Option.bind_eq_some_iff.1 read
      obtain ⟨entries, areEntries, made⟩ := Option.bind_eq_some_iff.1 read
      cases made
      rw [string?_eq_some_iff] at isText
      subst isText
      exact ⟨some listed, record, cellsOfJson?_eq_some_iff.1 areEntries⟩
    case h_3 => cases read
  · rintro ⟨field, record, listed⟩
    refine ⟨_, record?_eq_some_iff.2 record, ?_⟩
    cases field with
    | none =>
        cases listed
        rfl
    | some json =>
        dsimp only
        rw [cellsOfJson?_eq_some_iff.2 listed]
        rfl

/-! ## Texts of files -/

private theorem SheetFile.ofText?_json_write (file : SheetFile) :
    Json.ofText? file.write = some file.json := by
  rw [Json.ofText?, scan_write, Option.bind_some, ofTokens?_tokens]

theorem SheetFile.describedBy_json_iff {file other : SheetFile} :
    other.DescribedBy file.json ↔ other = file := by
  rw [← ofJson?_eq_some_iff, ofJson?_json, Option.some.injEq]
  exact eq_comm

theorem SheetFile.write_injective : Function.Injective write := by
  intro file other same
  have read := ofText?_write file
  rw [same, ofText?_write] at read
  injection read with same
  exact same.symm

/-- Whatever its texts are and however many cells it has, a file is written as the text of a
JSON value that describes this file and no other, the file is read from the text, and no
other file is written alike. -/
theorem SheetFile.write_described_and_read_back (file : SheetFile) :
    ∃ json, Json.ofText? file.write = some json ∧
      (∀ other : SheetFile, other.DescribedBy json ↔ other = file) ∧
        ofText? file.write = some file ∧
          ∀ other : SheetFile, other.write = file.write ↔ other = file :=
  ⟨file.json, ofText?_json_write file, fun _ => describedBy_json_iff, ofText?_write file,
    fun _ => write_injective.eq_iff⟩

/-- Controls are escaped, and contents that are missing are no empty text. -/
example :
    (SheetFile.mk "\x1f\"é" [⟨"A1", none⟩, ⟨"B1", some ""⟩]).write =
      "\x7b\n  \"version\": \"\\u001f\\\"é\",\n  \"cells\": [\n" ++
        "    \x7b\n      \"name\": \"A1\",\n      \"contents\": null\n    \x7d,\n" ++
        "    \x7b\n      \"name\": \"B1\",\n      \"contents\": \"\"\n    \x7d\n  ]\n\x7d" := by
  decide +kernel

end Reckon
