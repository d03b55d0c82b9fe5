import Reckon.Json.Token

/-!
JSON values, built from tokens one by one with a stack of the arrays and objects
that are still open.

A value keeps what a careful reader may refuse: strings that denote no text,
numbers that are too large, and members in their order with repeated keys.
-/

namespace Reckon

/-- A JSON value. Keys and strings hold the texts that they denote, if any. -/
inductive Json where
  | null
  | bool (value : Bool)
  | number (literal : Json.NumberLiteral)
  | string (text : Option String)
  | array (items : List Json)
  | object (members : List (Option String × Json))

namespace Json

/-- An array or object that is still open, with the latest item first. An object
that waits for the value of a member holds its key. -/
inductive Frame where
  | array (items : List Json)
  | object (members : List (Option String × Json))
  | member (members : List (Option String × Json)) (key : Option String)

/-- What may come next. -/
inductive Place where
  /-- A value must come. -/
  | value
  /-- The first item of an array may come, or its end. -/
  | firstItem
  /-- The first key of an object may come, or its end. -/
  | firstKey
  /-- A key must come. -/
  | key
  /-- The colon after a key must come. -/
  | colon
  /-- A comma may come, or the end of the innermost array or object. -/
  | next
  /-- The value is complete and nothing may come. -/
  | complete (value : Json)

/-- How far a value has been read. -/
structure Reading where
  place : Place
  frames : List Frame

namespace Reading

def start : Reading :=
  ⟨.value, []⟩

/-- A value is complete and takes its place in what is open around it. -/
def put (value : Json) : List Frame → Option Reading
  | [] => some ⟨.complete value, []⟩
  | .array items :: below => some ⟨.next, .array (value :: items) :: below⟩
  | .member members key :: below =>
      some ⟨.next, .object ((key, value) :: members) :: below⟩
  | .object _ :: _ => none

def close : List Frame → Option Reading
  | .array items :: below => put (.array items.reverse) below
  | .object members :: below => put (.object members.reverse) below
  | _ => none

def begin (frames : List Frame) : Token → Option Reading
  | .null => put .null frames
  | .bool value => put (.bool value) frames
  | .number literal => put (.number literal) frames
  | .string text => put (.string text) frames
  | .openArray => some ⟨.firstItem, .array [] :: frames⟩
  | .openObject => some ⟨.firstKey, .object [] :: frames⟩
  | _ => none

/-- A key takes its place in the innermost object. -/
def putKey (key : Option String) : List Frame → Option Reading
  | .object members :: below => some ⟨.colon, .member members key :: below⟩
  | _ => none

def step (reading : Reading) (token : Token) : Option Reading :=
  match reading.place, token with
  | .value, token => begin reading.frames token
  | .firstItem, .closeArray => close reading.frames
  | .firstItem, token => begin reading.frames token
  | .firstKey, .closeObject => close reading.frames
  | .firstKey, .string key => putKey key reading.frames
  | .key, .string key => putKey key reading.frames
  | .colon, .colon => some ⟨.value, reading.frames⟩
  | .next, .comma =>
      match reading.frames with
      | .array items :: below => some ⟨.value, .array items :: below⟩
      | .object members :: below => some ⟨.key, .object members :: below⟩
      | _ => none
  | .next, .closeArray =>
      match reading.frames with
      | .array items :: below => close (.array items :: below)
      | _ => none
  | .next, .closeObject =>
      match reading.frames with
      | .object members :: below => close (.object members :: below)
      | _ => none
  | _, _ => none

def value? (reading : Reading) : Option Json :=
  match reading.place with
  | .complete value => some value
  | _ => none

end Reading

def ofTokens? (tokens : List Token) : Option Json :=
  (tokens.foldlM Reading.step Reading.start).bind Reading.value?

def ofText? (text : String) : Option Json :=
  (Token.scan text.toList).bind ofTokens?

/-! ## Careful values -/

/-- The deepest nesting of arrays and objects that a careful reader follows. -/
def deepest : Nat :=
  127

mutual

/-- A value is careful to the given depth when its strings denote texts, its
numbers are doubles, and its arrays and objects nest no deeper. -/
def isCareful (depth : Nat) : Json → Bool
  | .null => true
  | .bool _ => true
  | .number literal => literal.value?.isSome
  | .string text => text.isSome
  | .array items => 0 < depth && areCareful (depth - 1) items
  | .object members => 0 < depth && membersAreCareful (depth - 1) members

def areCareful (depth : Nat) : List Json → Bool
  | [] => true
  | item :: rest => isCareful depth item && areCareful depth rest

def membersAreCareful (depth : Nat) : List (Option String × Json) → Bool
  | [] => true
  | (key, value) :: rest =>
      key.isSome && isCareful depth value && membersAreCareful depth rest

end

end Json

end Reckon
