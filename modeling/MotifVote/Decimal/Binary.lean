/-!
# The value of a double

A finite double is an integer times a power of two. Everything about its decimal forms starts from
that reading, in exact arithmetic on natural numbers.
-/

namespace MotifVote.Decimal

/-- What the bits of a double stand for. -/
inductive Binary where
  | nan
  | infinite (negative : Bool)
  /-- The number `mantissa · 2 ^ exponent` under a sign; the mantissa is below `2 ^ 53`. -/
  | finite (negative : Bool) (mantissa : Nat) (exponent : Int)
  deriving DecidableEq, Repr

/-- The reading of the 64 bits of a double: a sign, eleven bits of exponent and 52 bits of fraction.
-/
def Binary.ofBits (bits : UInt64) : Binary :=
  let negative := bits.toNat / Nat.pow 2 63 == 1
  let biased : Nat := bits.toNat / Nat.pow 2 52 % Nat.pow 2 11
  let fraction := bits.toNat % Nat.pow 2 52
  if biased == 2047 then if fraction == 0 then .infinite negative else .nan
  else if biased == 0 then .finite negative fraction (-1074)
  else .finite negative (Nat.pow 2 52 + fraction) ((biased : Int) - 1075)

/-- The reading of a double. -/
def Binary.ofFloat (x : Float) : Binary := .ofBits x.toBits

/-- Where a double lies among all doubles, from minus infinity to infinity; minus zero comes right
below zero, and what is not a number comes below everything. -/
def rank (x : Float) : Int :=
  let bits := x.toBits.toNat
  if x.isNaN then -(Nat.pow 2 64 : Int)
  else if bits < Nat.pow 2 63 then bits
  else -((bits - Nat.pow 2 63 : Nat) : Int) - 1

end MotifVote.Decimal
