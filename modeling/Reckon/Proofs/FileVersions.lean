import Reckon.Proofs.FileFields
import Reckon.Proofs.FileRuns

/-!
The version in a file. The version is read by itself in another way than with the cells:
members and cells that no sheet has do not matter then, but nothing may follow the version
where a file is an array. So the version that is read is the one with which a sheet is
loaded, except where the file is an array that also lists the cells.
-/

namespace Reckon

namespace Json

def itemCount : Json → Nat
  | .array items => items.length
  | _ => 0

/-- The first field of a record is also that of a lenient record which has no other field,
unless an array has more items than that one. -/
theorem Record.record?_first {json : Json} {first : String} {rest : List String}
    {value : Option Json} {others : List (Option Json)}
    (record : Record (first :: rest) json (value :: others)) :
    json.record? true [first] = if json.itemCount ≤ 1 then some [value] else none := by
  generalize fields : value :: others = all at record
  cases record with
  | @object members _ named once held =>
      subst fields
      obtain ⟨heldFirst, _⟩ := List.forall₂_cons.1 held
      have found : unique? first members = some value :=
        unique?_eq_some_iff.2 ⟨List.nodup_iff_count_le_one.1 once (some first), heldFirst⟩
      have known : (members.all fun member =>
          member.1.any fun key => true || [first].contains key) = true := by
        refine List.all_eq_true.2 fun member listed => ?_
        obtain ⟨key, _, keyed⟩ := named member.1 (List.mem_map_of_mem listed)
        rw [keyed]
        rfl
      rw [record?, if_pos known, List.mapM_cons, found]
      rfl
  | @array items few =>
      cases items with
      | nil =>
          injection fields with same
          rw [same]
          rfl
      | cons item later =>
          injection fields with same
          rw [same]
          cases later with
          | nil => rfl
          | cons _ _ => rfl

end Json

namespace SheetFile

/-- How many items the array in a text has, if an array stands there. -/
def itemCount (text : String) : Nat :=
  ((Json.ofText? text).map Json.itemCount).getD 0

/-- The version of a file is read by itself unless it is an item of several. -/
theorem versionOf?_of_ofText? {text : String} {file : SheetFile} (read : ofText? text = some file) :
    versionOf? text = if itemCount text ≤ 1 then some file.version else none := by
  cases parsed : Json.ofText? text with
  | none =>
      rw [ofText?, parsed] at read
      cases read
  | some json =>
      rw [ofText?, parsed, Option.bind_some] at read
      obtain ⟨cells, record, _⟩ := ofJson?_eq_some_iff.1 read
      have count : itemCount text = json.itemCount := by rw [itemCount, parsed]; rfl
      have lenient := record.record?_first
      rw [count, versionOf?, parsed]
      dsimp only [Option.bind_eq_bind, Option.bind_some]
      rw [lenient]
      by_cases few : json.itemCount ≤ 1
      · rw [if_pos few, if_pos few]
        rfl
      · rw [if_neg few, if_neg few]
        rfl

end SheetFile

namespace Sheet

private theorem exists_ofText?_of_ofText {rules : NameRules} {expected text : String}
    {sheet : Sheet}
    (read : ofText rules expected text = .ok sheet) :
    ∃ file, SheetFile.ofText? text = some file ∧ file.version = expected := by
  obtain ⟨file, parsed, entered⟩ := ofText_eq_ok.1 read
  exact ⟨file, parsed, (ofFile_eq_ok.1 entered).1⟩

private theorem ofText_of_version_ne {rules : NameRules} {expected text : String} {file : SheetFile}
    (parsed : SheetFile.ofText? text = some file) (other : file.version ≠ expected) :
    ofText rules expected text = .error (.versionMismatch expected file.version) := by
  rw [ofText, parsed]
  exact if_neg other

section

variable {Files : Type} [FileAccess (StateM Files)]

theorem runOn_savedVersion {files : Files} {path text : String} {file : SheetFile}
    (stored : (runOn files (FileAccess.read path)).1 = .ok text)
    (parsed : SheetFile.ofText? text = some file) :
    (runOn files (savedVersion path)).1 =
      if SheetFile.itemCount text ≤ 1 then .ok file.version else .error ⟨path, .malformed⟩ := by
  rw [savedVersion, runOn_readAs, stored]
  dsimp only
  rw [SheetFile.versionOf?_of_ofText? parsed]
  by_cases few : SheetFile.itemCount text ≤ 1
  · rw [if_pos few, if_pos few]
    rfl
  · rw [if_neg few, if_neg few]
    rfl

/-- The version of a file from which a sheet is loaded is the expected one, and it is read
by itself except from an array that also lists the cells. From a file whose version can be
read so, no sheet is loaded with another version, whatever the cells are. -/
theorem savedVersion_agrees_with_load (files : Files) (path : String) (rules : NameRules) :
    (∀ (expected : String) (sheet : Sheet),
      (runOn files (load path rules expected)).1 = .ok sheet →
        ∃ text, (runOn files (FileAccess.read path)).1 = .ok text ∧
          (runOn files (savedVersion path)).1 =
            if SheetFile.itemCount text ≤ 1 then .ok expected else .error ⟨path, .malformed⟩) ∧
    ∀ (text : String) (file : SheetFile), (runOn files (FileAccess.read path)).1 = .ok text →
      SheetFile.ofText? text = some file →
        (runOn files (savedVersion path)).1 =
            (if SheetFile.itemCount text ≤ 1 then .ok file.version
              else .error ⟨path, .malformed⟩) ∧
          ∀ expected, file.version ≠ expected →
            (runOn files (load path rules expected)).1 =
              .error ⟨path, .versionMismatch expected file.version⟩ := by
  constructor
  · intro expected sheet loaded
    rw [load, runOn_readAs] at loaded
    cases stored : (runOn files (FileAccess.read path)).1 with
    | error fault =>
        rw [stored] at loaded
        cases loaded
    | ok text =>
        rw [stored] at loaded
        obtain ⟨file, parsed, sameVersion⟩ := exists_ofText?_of_ofText (mapError_eq_ok.1 loaded)
        rw [← sameVersion]
        exact ⟨text, rfl, runOn_savedVersion stored parsed⟩
  · intro text file stored parsed
    refine ⟨runOn_savedVersion stored parsed, fun expected other => ?_⟩
    rw [load, runOn_readAs, stored]
    dsimp only
    rw [ofText_of_version_ne parsed other]
    rfl

end

/-- An array of a version and no cells, from which a sheet is loaded although the version
can not be read by itself. -/
theorem savedVersion_fails_on_listed_cells :
    let text := "[\"v1\",[]]"
    let disk := Disk.empty.place ["f.json"] (.file text.toUTF8)
    SheetFile.ofText? text = some ⟨"v1", []⟩ ∧
      (runOn disk (load "f.json" .free "v1")).1.map Sheet.names = .ok [] ∧
      (runOn disk (savedVersion "f.json")).1 = .error ⟨"f.json", .malformed⟩ := by
  decide +kernel

end Sheet

end Reckon
