import MotifVote.Scalar
import MotifVote.Decimal.Layout

/-!
# Doubles as numbers

The number system the program runs on. Undefined results compare with nothing and sort below all
numbers; minus zero sorts below zero, though the two are equal.
-/

namespace MotifVote

instance : Scalar Float where
  zero := 0.0
  one := 1.0
  add := Float.add
  sub := Float.sub
  mul := Float.mul
  div := Float.div
  neg := Float.neg
  natCast := Float.ofNat
  le x y := x ≤ y
  lt x y := x < y
  beq := Float.beq
  decidableLE := inferInstanceAs (DecidableLE Float)
  decidableLT := inferInstanceAs (DecidableLT Float)
  isFinite := Float.isFinite
  sortsBefore x y := Decimal.rank x ≤ Decimal.rank y
  text := Decimal.Layout.message.write

instance : Exponential Float where
  exp := Float.exp
  pow := Float.pow

end MotifVote
