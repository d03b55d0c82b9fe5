import Reckon.Json.Value

/-!
Two shapes of JSON values: records, whose fields have names and an order, and
tagged contents, where a tag says what the content next to it is.
-/

namespace Reckon.Json

/-- The string that a value is, if it denotes a text. -/
def string? : Json → Option String
  | .string text => text
  | _ => none

/-! ## Records -/

/-- The only value of a key among members: `some none` where no member has the
key, and nothing at all where several have it. -/
def unique? (key : String) (members : List (Option String × Json)) :
    Option (Option Json) :=
  match members.filter fun member => member.1 = some key with
  | [] => some none
  | [member] => some (some member.2)
  | _ => none

/-- The fields of a record in the order of their names. A record is an object,
whose members may come in any order but at most once each, or an array with the
fields in order, whose last ones may be missing. Every key must denote a text,
and must name a field unless the record is `lenient`. -/
def record? (lenient : Bool) (names : List String) :
    Json → Option (List (Option Json))
  | .object members =>
      if members.all fun member =>
          member.1.any fun key => lenient || names.contains key then
        names.mapM fun name => unique? name members
      else
        none
  | .array items =>
      if items.length ≤ names.length then
        some (items.map some ++
          List.replicate (names.length - items.length) none)
      else
        none
  | _ => none

/-! ## Tagged contents -/

/-- What may be read as it comes, or must be kept until its tag is known. A kept
value gives its tag in more ways. -/
inductive Manner where
  | passing
  | kept
deriving DecidableEq

/-- What a tag among members gives, where the tag is a string, or an object with
the tag as its only key and a null. A kept object may hold an empty object in
place of the null. -/
def memberTag? (manner : Manner) : Json → Option String
  | .string text => text
  | .object [(key, .null)] => key
  | .object [(key, .object [])] => if manner = .kept then key else none
  | _ => none

/-- What a tag in an array gives, where the tag is a string. A kept array may hold
the place of the tag among all tags instead. -/
def itemTag? (manner : Manner) (tags : List String) : Json → Option String
  | .string text => text
  | .number literal =>
      if manner = .kept then
        literal.natural?.bind fun place => tags[place]?
      else
        none
  | _ => none

/-- A tag, and the content with it, if there is one. -/
structure Tagged where
  tag : String
  content : Option Json
  /-- How the content is to be read. -/
  manner : Manner

/-- What has been read of tagged content: the tag, and the content with the manner
in which it is to be read. -/
structure TaggedReading where
  tag : Option String
  content : Option (Json × Manner)

namespace TaggedReading

/-- One more member is read, where `depth` bounds the nesting of content that
comes before its tag and so must be kept. Other members than `type` and the
content are skipped, whatever they hold. -/
def step (contentKey : String) (manner : Manner) (depth : Nat) (reading : TaggedReading)
    (member : Option String × Json) : Option TaggedReading :=
  match member.1 with
  | none => none
  | some key =>
      if key = "type" then
        match reading.tag, memberTag? manner member.2 with
        | none, some tag => some ⟨some tag, reading.content⟩
        | _, _ => none
      else if key = contentKey then
        if reading.content.isSome then
          none
        else if reading.tag.isSome then
          some ⟨reading.tag, some (member.2, manner)⟩
        else if member.2.isCareful depth then
          some ⟨reading.tag, some (member.2, .kept)⟩
        else
          none
      else
        some reading

/-- The tag with its content, if it has been read. -/
def tagged? (reading : TaggedReading) (manner : Manner) : Option Tagged :=
  reading.tag.map fun tag =>
    match reading.content with
    | none => ⟨tag, none, manner⟩
    | some (content, contentManner) => ⟨tag, some content, contentManner⟩

end TaggedReading

/-- The tag of a value and the content with it, where the value has one of some
tags. The value is an object with the tag under `type`, or an array of a tag and a
content. The nesting of an object together with its content is bounded by `depth`
where the content comes first. -/
def tagged? (contentKey : String) (tags : List String) (manner : Manner) (depth : Nat) :
    Json → Option Tagged
  | .object members => do
      let reading ←
        members.foldlM (TaggedReading.step contentKey manner (depth - 1)) ⟨none, none⟩
      reading.tagged? manner
  | .array [tag, content] =>
      (itemTag? manner tags tag).map fun tag => ⟨tag, some content, manner⟩
  | _ => none

end Reckon.Json
