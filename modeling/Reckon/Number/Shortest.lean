import Reckon.Number.Decimal

/-!
The shortest decimal of a magnitude: the fewest digits that read back as the
same double, and among those the digits nearest to it.

The exact decimal of the magnitude is cut after one digit, after two, and so
on. The first cut with a neighbour that reads back wins; of two such neighbours
the nearer one, and a tie is for the caller to decide.
-/

namespace Reckon.Number

-- Powers of natural numbers are those of the core library, whatever else is imported.
attribute [local instance (high)] instPowNat

/-- Where a number halfway between two decimals of the same length goes. -/
inductive Tie where
  | up
  | even
deriving DecidableEq

/-- Whether the upper of two neighbours is taken, when the lower one has the
digits `lower` and `remainder` of `grid` lie above it. -/
def Tie.takesUpper (tie : Tie) (lower remainder grid : Nat) : Bool :=
  if 2 * remainder = grid then
    match tie with
    | .up => true
    | .even => lower % 2 = 1
  else
    grid < 2 * remainder

namespace Decimal

/-- The neighbour of an exact decimal, cut before its last `dropped` digits,
that reads back as the magnitude, if there is one. -/
def cut? (tie : Tie) (magnitude : Nat) (exact : Decimal) (dropped : Nat) :
    Option Decimal :=
  let grid := 10 ^ dropped
  let lower : Decimal := ⟨exact.digits / grid, exact.exponent + dropped⟩
  let upper : Decimal := ⟨exact.digits / grid + 1, exact.exponent + dropped⟩
  match decide (lower.magnitude = magnitude),
      decide (upper.magnitude = magnitude) with
  | true, true =>
      if tie.takesUpper lower.digits (exact.digits % grid) grid then
        some upper
      else
        some lower
  | true, false => some lower
  | false, true => some upper
  | false, false => none

/-- The first cut that reads back, when at most `dropped` digits are dropped;
the exact decimal is the last resort. -/
def shorten (tie : Tie) (magnitude : Nat) (exact : Decimal) : Nat → Decimal
  | 0 => exact
  | dropped + 1 =>
      match exact.cut? tie magnitude (dropped + 1) with
      | some decimal => decimal
      | none => shorten tie magnitude exact dropped

/-- The shortest decimal that reads back as a finite magnitude. -/
def shortest (tie : Tie) (magnitude : Nat) : Decimal :=
  if magnitude = 0 then
    ⟨0, 0⟩
  else
    let exact := ofDyadic (Dyadic.ofMagnitude magnitude)
    let length := (Nat.toDigits 10 exact.digits).length
    (shorten tie magnitude exact (length - 1)).normalized

/-- A cut that is taken reads back. -/
theorem magnitude_of_cut?
    {tie : Tie} {magnitude dropped : Nat} {exact decimal : Decimal}
    (taken : exact.cut? tie magnitude dropped = some decimal) :
    decimal.magnitude = magnitude := by
  unfold cut? at taken
  simp only at taken
  split at taken
  · next lowerReads upperReads =>
      split at taken <;> injection taken with equality <;> subst equality
      · exact of_decide_eq_true upperReads
      · exact of_decide_eq_true lowerReads
  · next lowerReads _ =>
      injection taken with equality
      subst equality
      exact of_decide_eq_true lowerReads
  · next _ upperReads =>
      injection taken with equality
      subst equality
      exact of_decide_eq_true upperReads
  · exact absurd taken (by simp)

/-- Where the exact decimal reads back, the shortened one does. -/
theorem magnitude_shorten
    {tie : Tie} {magnitude : Nat} {exact : Decimal}
    (reads : exact.magnitude = magnitude) (dropped : Nat) :
    (shorten tie magnitude exact dropped).magnitude = magnitude := by
  induction dropped with
  | zero => exact reads
  | succ dropped inductionHypothesis =>
      unfold shorten
      split
      · next decimal taken => exact magnitude_of_cut? taken
      · exact inductionHypothesis

end Decimal

end Reckon.Number
