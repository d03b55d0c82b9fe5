/-!
Names: which texts name a variable or a cell, and the rules by which names are
brought to a canonical form and accepted.
-/

namespace Reckon

/-- A letter or underscore, with which a name begins. -/
def isNameStart (character : Char) : Bool :=
  character.isAlpha || character = '_'

/-- A letter, digit or underscore, with which a name goes on. -/
def isNamePart (character : Char) : Bool :=
  character.isAlphanum || character = '_'

/-- A well-formed name begins with a letter or underscore and goes on with
letters, digits and underscores, all of them ASCII. -/
def isName (text : String) : Bool :=
  match text.toList with
  | [] => false
  | first :: rest => isNameStart first && rest.all isNamePart

/-- A cell is named by ASCII letters and then ASCII digits, at least one of
each. -/
def isCellName (text : String) : Bool :=
  let digits := text.toList.dropWhile Char.isAlpha
  !(text.toList.takeWhile Char.isAlpha).isEmpty && !digits.isEmpty && digits.all Char.isDigit

/-- How written names are understood: each has a canonical form, and a canonical
form is accepted or not. -/
structure NameRules where
  canonical : String → String
  accepts : String → Bool

namespace NameRules

/-- Every name is its own canonical form and accepted. -/
def free : NameRules :=
  ⟨fun name => name, fun _ => true⟩

/-- The same rules, where only names of cells are accepted. -/
def forCells (rules : NameRules) : NameRules :=
  ⟨rules.canonical, fun name => isCellName name && rules.accepts name⟩

end NameRules

end Reckon
