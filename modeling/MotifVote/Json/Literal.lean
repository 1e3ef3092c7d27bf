import MotifVote.Json.Value
import MotifVote.Decimal.Numeral

/-!
# Number literals

A literal without fraction and exponent stands for an integer if 64 bits hold it. Every other
literal stands for a double: its leading digits, as many as 64 bits hold, times a power of ten.
That product is rounded once more, so it need not be the double nearest to the literal. A literal
beyond the range of doubles stands for no number.
-/

namespace MotifVote.Json

open Decimal (digitsValue)

/-- A number as it is written. -/
structure Literal where
  negative : Bool
  whole : List Char
  fraction : Option (List Char)
  /-- The exponent: whether it is negative, and its digits. -/
  exponent : Option (Bool × List Char)
  deriving DecidableEq, Repr

/-- A number extended by digits as long as 64 bits hold it, and the digits left over. -/
def keepDigits (n : Nat) : List Char → Nat × List Char
  | [] => (n, [])
  | c :: rest =>
    let next := 10 * n + (c.toNat - '0'.toNat)
    if next < UInt64.size then keepDigits next rest else (n, c :: rest)

/-- A power of ten as a double. -/
def powerOfTen (n : Nat) : Float := Float.ofScientific 1 false n

/-- A double times a power of ten, if it stays finite. Powers outside the range of doubles are
applied in steps; two steps down take every number of 64 bits to zero. -/
def scale? (x : Float) (exponent : Int) : Option Float :=
  if exponent ≥ 0 then
    if exponent > 308 then (if x == 0.0 then some x else none)
    else
      let product := x * powerOfTen exponent.toNat
      if product.isFinite then some product else none
  else if exponent ≥ -308 then some (x / powerOfTen (-exponent).toNat)
  else if exponent ≥ -616 then some (x / powerOfTen 308 / powerOfTen (-exponent - 308).toNat)
  else some 0.0

/-- The largest exponent that is read digit by digit. -/
def exponentLimit : Nat := Nat.pow 2 31 - 1

/-- The double a literal stands for, without its sign. -/
def Literal.magnitude? (literal : Literal) : Option Float :=
  let (kept, dropped) := keepDigits 0 literal.whole
  let fraction := literal.fraction.getD []
  let (kept, left) := keepDigits kept fraction
  let shift : Int := (dropped.length : Int) - (fraction.length - left.length : Nat)
  match literal.exponent with
  | none => scale? (Float.ofNat kept) shift
  | some (negative, digits) =>
    let exponent := digitsValue digits
    if exponent > exponentLimit then
      if kept = 0 || negative then some 0.0 else none
    else scale? (Float.ofNat kept) (if negative then shift - exponent else shift + exponent)

/-- The integer a literal stands for, if it is written as one and 64 bits hold it. Minus zero is
not an integer. -/
def Literal.integer? (literal : Literal) : Option Int :=
  match literal.fraction, literal.exponent with
  | none, none =>
    let n := digitsValue literal.whole
    if literal.negative then (if 0 < n ∧ n ≤ Nat.pow 2 63 then some (-(n : Int)) else none)
    else if n < UInt64.size then some n else none
  | _, _ => none

/-- The number a literal stands for, if there is one. -/
def Literal.number? (literal : Literal) : Option Number :=
  match literal.integer? with
  | some value => some (.integer value)
  | none => literal.magnitude?.map fun x => .real (if literal.negative then -x else x)

end MotifVote.Json
