import Reckon.Formula.Basic

/-!
Evaluation: the value of a formula, computed in one pass over its tokens with a
stack of values and a stack of pending operators and parentheses. A product or
quotient is taken as soon as its right operand is there; a sum or difference
waits until the next operator that binds no tighter, or the end of its
parentheses.
-/

namespace Reckon

/-- What waits for its right operand or its closing parenthesis. -/
inductive Pending where
  | paren
  | operator (op : Operator)
deriving DecidableEq

/-- The values computed so far and what is pending, the latest first. -/
structure Stacks where
  values : List Float
  pending : List Pending
deriving DecidableEq

namespace Stacks

def empty : Stacks :=
  ⟨[], []⟩

/-- The two latest values, the left one first, and the others. Missing values
count as zero. -/
def popPair (state : Stacks) : Float × Float × List Float :=
  match state.values with
  | right :: left :: rest => (left, right, rest)
  | [right] => (0, right, [])
  | [] => (0, 0, [])

/-- A pending sum or difference is taken. -/
def resolveAdditive (state : Stacks) : Stacks :=
  match state.pending with
  | .operator .add :: pending =>
      let (left, right, rest) := state.popPair
      ⟨(left + right) :: rest, pending⟩
  | .operator .sub :: pending =>
      let (left, right, rest) := state.popPair
      ⟨(left - right) :: rest, pending⟩
  | _ => state

/-- A pending product or quotient is taken; no number is divided by zero. -/
def resolveMultiplicative (state : Stacks) : Except EvalError Stacks :=
  match state.pending with
  | .operator .mul :: pending =>
      let (left, right, rest) := state.popPair
      .ok ⟨(left * right) :: rest, pending⟩
  | .operator .div :: pending =>
      let (left, right, rest) := state.popPair
      if right == 0 then
        .error .divisionByZero
      else
        .ok ⟨(left / right) :: rest, pending⟩
  | _ => .ok state

/-- An operand arrives, which completes a pending product or quotient. -/
def pushOperand (state : Stacks) (value : Float) : Except EvalError Stacks :=
  resolveMultiplicative ⟨value :: state.values, state.pending⟩

/-- The latest opening parenthesis is no longer pending. -/
def dropParen (state : Stacks) : Stacks :=
  match state.pending with
  | .paren :: pending => ⟨state.values, pending⟩
  | _ => state

/-- One more token is read, where `lookup` knows the values of names. -/
def step (lookup : String → Option Float) (state : Stacks) :
    Token → Except EvalError Stacks
  | .leftParen => .ok ⟨state.values, .paren :: state.pending⟩
  | .rightParen => state.resolveAdditive.dropParen.resolveMultiplicative
  | .operator op =>
      if op.isAdditive then
        let resolved := state.resolveAdditive
        .ok ⟨resolved.values, .operator op :: resolved.pending⟩
      else
        .ok ⟨state.values, .operator op :: state.pending⟩
  | .number value => state.pushOperand value
  | .name name =>
      match lookup name with
      | some value => state.pushOperand value
      | none => .error (.undefinedVariable name)

/-- The value that remains once all tokens are read: a last sum or difference is
taken, and nothing at all counts as zero. -/
def result (state : Stacks) : Float :=
  state.resolveAdditive.values.headD 0

end Stacks

/-- The value of a list of tokens, where `lookup` knows the values of names. -/
def evaluateTokens (lookup : String → Option Float) (tokens : List Token) :
    Except EvalError Float :=
  (tokens.foldlM (Stacks.step lookup) Stacks.empty).map Stacks.result

/-- The value of a formula, where `lookup` knows the values of names. -/
def Formula.evaluate (formula : Formula) (lookup : String → Option Float) :
    Except EvalError Float :=
  evaluateTokens lookup formula.tokens

end Reckon
