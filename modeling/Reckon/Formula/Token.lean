import Reckon.Number.Written

/-!
The tokens of formulas: parentheses, the four operators, numbers and names.
-/

namespace Reckon

inductive Operator where
  | add
  | sub
  | mul
  | div
deriving DecidableEq

namespace Operator

def symbol : Operator → Char
  | .add => '+'
  | .sub => '-'
  | .mul => '*'
  | .div => '/'

/-- Sums and differences bind less tightly than products and quotients. -/
def isAdditive : Operator → Bool
  | .add => true
  | .sub => true
  | .mul => false
  | .div => false

end Operator

inductive Token where
  | leftParen
  | rightParen
  | operator (op : Operator)
  | number (value : Float)
  | name (text : String)
deriving DecidableEq

namespace Token

def isOperand : Token → Bool
  | .number _ => true
  | .name _ => true
  | _ => false

def name? : Token → Option String
  | .name text => some text
  | _ => none

def text : Token → String
  | .leftParen => "("
  | .rightParen => ")"
  | .operator op => String.singleton op.symbol
  | .number value => Number.plainText value
  | .name text => text

/-- Tokens are alike when they are of one kind and hold the same operator, the
same name, or numbers that are equal as doubles. -/
def alike : Token → Token → Bool
  | .leftParen, .leftParen => true
  | .rightParen, .rightParen => true
  | .operator left, .operator right => left = right
  | .number left, .number right => left == right
  | .name left, .name right => left = right
  | _, _ => false

/-- What the hash of a token is computed from: its kind, the bits of its number
or the rank of its operator, and its name. -/
def hashKey : Token → Nat × UInt64 × String
  | .leftParen => (0, 0, "")
  | .rightParen => (1, 0, "")
  | .operator op => (2, op.symbol.toNat.toUInt64, "")
  | .number value => (3, value.toBits, "")
  | .name text => (4, 0, text)

end Token

end Reckon
