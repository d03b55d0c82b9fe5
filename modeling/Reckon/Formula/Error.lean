/-!
What can be wrong with the text of a formula, and what can go wrong when a
formula is evaluated.
-/

namespace Reckon

/-- Why a text is not a formula. Positions count tokens from one. -/
inductive FormatError where
  | empty
  | invalidToken (token : String) (position : Nat)
  | unexpectedToken (token : String) (position : Nat)
  | unbalancedParens (opened closed : Nat)
  | unmatchedClose (position : Nat)
  | invalidStart
  | invalidEnd
  | invalidVariable (written canonical : String) (position : Nat)
deriving DecidableEq

def FormatError.message : FormatError → String
  | .empty => "formula must contain at least one token"
  | .invalidToken token position =>
      s!"invalid token \"{token}\" at position {position}"
  | .unexpectedToken token position =>
      s!"token \"{token}\" at position {position} cannot follow the previous token"
  | .unbalancedParens opened closed =>
      s!"unbalanced parentheses: {opened} '(' and {closed} ')'"
  | .unmatchedClose position =>
      s!"closing parenthesis at position {position} has no matching '('"
  | .invalidStart => "formula must begin with a number, variable or '('"
  | .invalidEnd => "formula must end with a number, variable or ')'"
  | .invalidVariable written canonical position =>
      s!"variable \"{written}\" at position {position} normalized to invalid \"{canonical}\""

/-- Why a formula has no number as its value. -/
inductive EvalError where
  | divisionByZero
  | undefinedVariable (name : String)
deriving DecidableEq

namespace EvalError

def message : EvalError → String
  | .divisionByZero => "division by zero"
  | .undefinedVariable name => s!"undefined variable: {name}"

def code : EvalError → String
  | .divisionByZero => "#DIV/0!"
  | .undefinedVariable _ => "#REF!"

/-- The reason, without the name of the variable. -/
def reason : EvalError → String
  | .divisionByZero => "division by zero"
  | .undefinedVariable _ => "undefined variable"

end EvalError

end Reckon
