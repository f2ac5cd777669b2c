/-!
Rounding a quotient of natural numbers to a natural number. Both rules agree with the quotient when it is
whole and go to the nearer neighbour otherwise; they differ on halves.
-/
namespace Polystore.Rounding

/-- What happens to a value halfway between two neighbours. -/
inductive Tie where
  /-- The even neighbour is taken. -/
  | toEven
  /-- The greater neighbour is taken. -/
  | up
deriving DecidableEq, Repr

/-- Whether a quotient with this floor and remainder goes up. -/
def goesUp (tie : Tie) (floor remainder divisor : Nat) : Bool :=
  divisor < 2 * remainder || (2 * remainder = divisor && (tie = .up || floor % 2 = 1))

/-- The natural number next to `dividend / divisor`. -/
def divide (tie : Tie) (dividend divisor : Nat) : Nat :=
  let floor := dividend / divisor
  if goesUp tie floor (dividend % divisor) divisor then floor + 1 else floor

theorem divide_mul (tie : Tie) (n divisor : Nat) (positive : 0 < divisor) :
    divide tie (n * divisor) divisor = n := by
  simp [divide, goesUp, Nat.mul_div_cancel n positive, Nat.ne_of_lt positive]

end Polystore.Rounding
