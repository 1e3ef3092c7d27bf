/-!
# Numbers for weights, scores and probabilities

Edge weights, scores and votes are computed with the same formulas over any number system of this
class. The program runs them on doubles; over the rationals or the reals the same formulas are
exact. Comparisons are relations that need not be total, because a number system may hold values
that compare with nothing; such a value is also different from itself under `==`.
-/

namespace MotifVote

/-- A number system for weights, scores and probabilities. -/
class Scalar (α : Type) extends
    Zero α, One α, Add α, Sub α, Mul α, Div α, Neg α, NatCast α, LE α, LT α, BEq α where
  [decidableLE : DecidableLE α]
  [decidableLT : DecidableLT α]
  /-- Whether a number is neither infinite nor undefined. -/
  isFinite : α → Bool
  /-- Whether the first number may stand before the second in ascending order; total, and the same
  as `≤` where numbers compare and differ. -/
  sortsBefore : α → α → Bool
  /-- A number as messages write it. -/
  text : α → String

attribute [reducible, instance] Scalar.decidableLE Scalar.decidableLT

/-- A number system with powers. -/
class Exponential (α : Type) extends Scalar α where
  /-- The exponential function. -/
  exp : α → α
  /-- The first number to the power of the second. -/
  pow : α → α → α

namespace Scalar

variable {α : Type} [Scalar α]

/-- Two, as a number of any system. -/
def two : α := ((2 : Nat) : α)

/-- The distance from zero. -/
def abs (x : α) : α := if x < 0 then -x else x

/-- The larger of two numbers; one that differs from itself counts for nothing. -/
def larger (x y : α) : α := if x < y || !(x == x) then y else x

/-- The largest of some numbers, if there is any. -/
def largest? (xs : List α) : Option α :=
  xs.foldl (fun best x => some ((best.map (larger · x)).getD x)) none

/-- The sum of some numbers, added from left to right. -/
def sum (xs : List α) : α := xs.foldl (· + ·) 0

end Scalar

/-- The rational numbers, which are not rounded. Every one of them is finite and equal to itself. -/
instance : Scalar Rat where
  zero := Rat.ofInt 0
  one := Rat.ofInt 1
  add := Rat.add
  sub := Rat.sub
  mul := Rat.mul
  div := Rat.div
  neg := Rat.neg
  natCast n := Rat.ofInt (Int.ofNat n)
  le x y := Rat.blt y x = false
  lt x y := Rat.blt x y = true
  beq x y := x.num == y.num && x.den == y.den
  decidableLE x y := inferInstanceAs (Decidable (Rat.blt y x = false))
  decidableLT x y := inferInstanceAs (Decidable (Rat.blt x y = true))
  isFinite _ := true
  sortsBefore x y := !Rat.blt y x
  text := toString

end MotifVote
