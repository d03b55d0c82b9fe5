import Reckon.Formula.Scan

/-!
Formulas: token lists in which operands and operators alternate, parentheses
match, and every name is canonical. A text is checked token by token, from left
to right, so that the first token that cannot stand where it does is reported.
-/

namespace Reckon

namespace Token

/-- An operand starts with a number, a name or an opening parenthesis. -/
def startsOperand : Token → Bool
  | .leftParen => true
  | token => token.isOperand

/-- An operand ends with a number, a name or a closing parenthesis. -/
def endsOperand : Token → Bool
  | .rightParen => true
  | token => token.isOperand

/-- After the end of an operand no other operand starts; after an opening
parenthesis or an operator one does. -/
def mayFollow (previous next : Token) : Bool :=
  previous.endsOperand != next.startsOperand

/-- A token whose name, if it is one, is canonical and accepted. -/
def canonical (rules : NameRules) (position : Nat) :
    Token → Except FormatError Token
  | .name written =>
      let name := rules.canonical written
      if isName name && rules.accepts name then
        .ok (.name name)
      else
        .error (.invalidVariable written name position)
  | token => .ok token

end Token

/-- A formula, by its canonical tokens. -/
structure Formula where
  tokens : List Token
deriving DecidableEq

namespace Formula

/-- The part of a formula that has been checked: its canonical tokens, the
latest first, and how many tokens, opening and closing parentheses it has. -/
structure Checked where
  accepted : List Token
  count : Nat
  opened : Nat
  closed : Nat
deriving DecidableEq

namespace Checked

def start : Checked :=
  ⟨[], 0, 0, 0⟩

/-- Any token may come first; a later one must suit the one before it. -/
def admits (checked : Checked) (token : Token) : Bool :=
  match checked.accepted with
  | [] => true
  | previous :: _ => previous.mayFollow token

/-- One more token is checked: it must suit the token before it, a closing
parenthesis needs an open one, and a name must be acceptable. -/
def push (rules : NameRules) (checked : Checked) (token : Token) :
    Except FormatError Checked :=
  let position := checked.count + 1
  if checked.admits token = false then
    .error (.unexpectedToken token.text position)
  else if token = .rightParen ∧ checked.opened ≤ checked.closed then
    .error (.unmatchedClose position)
  else
    (token.canonical rules position).map fun canonical =>
      ⟨canonical :: checked.accepted, position,
        checked.opened + (if token = .leftParen then 1 else 0),
        checked.closed + (if token = .rightParen then 1 else 0)⟩

/-- The formula, once all tokens have been checked: every parenthesis is closed,
and the formula starts and ends as an operand does. -/
def finish (checked : Checked) : Except FormatError Formula :=
  let tokens := checked.accepted.reverse
  if checked.opened ≠ checked.closed then
    .error (.unbalancedParens checked.opened checked.closed)
  else if tokens.head?.any Token.startsOperand = false then
    .error .invalidStart
  else if tokens.getLast?.any Token.endsOperand = false then
    .error .invalidEnd
  else
    .ok ⟨tokens⟩

end Checked

def ofTokens (rules : NameRules) (tokens : List Token) :
    Except FormatError Formula :=
  if tokens = [] then
    .error .empty
  else
    (tokens.foldlM (Checked.push rules) Checked.start).bind Checked.finish

def ofText (rules : NameRules) (text : String) : Except FormatError Formula :=
  (Token.scan text).bind (ofTokens rules)

/-- The canonical text of a formula, which has no blanks. -/
def text (formula : Formula) : String :=
  String.join (formula.tokens.map Token.text)

/-- The names in a formula, each once, in the order of their first occurrence. -/
def names (formula : Formula) : List String :=
  (formula.tokens.filterMap Token.name?).eraseDups

/-- Formulas are alike when their tokens are, one by one. -/
def alike (left right : Formula) : Bool :=
  left.tokens.length = right.tokens.length &&
    (left.tokens.zip right.tokens).all fun (first, second) => first.alike second

def hashCode (formula : Formula) : UInt64 :=
  hash (formula.tokens.map Token.hashKey)

end Formula

end Reckon
