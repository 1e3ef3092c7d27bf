import MotifVote.Decimal.Binary

/-!
# Shortest decimals

The decimal with the fewest digits among those that read back as a given double, and of these the
nearest to it.

The reals that round to `mantissa · 2 ^ exponent` form an interval whose ends lie half way to the
two neighbouring doubles; the ends belong to it if the mantissa is even. A grid of decimals has a
point in the interval exactly when one of the two grid points around the double lies in it, so
trying these two points on ever finer grids finds the shortest form.
-/

namespace MotifVote.Decimal

/-- The number `digits · 10 ^ exponent` under a sign. -/
structure Expansion where
  negative : Bool
  digits : Nat
  exponent : Int
  deriving DecidableEq, Repr

/-- A positive rational number. -/
structure Ratio where
  num : Nat
  den : Nat

/-- The number `n · 2 ^ e`. -/
def Ratio.scaled (n : Nat) (e : Int) : Ratio :=
  if e ≥ 0 then ⟨n * Nat.pow 2 e.toNat, 1⟩ else ⟨n, Nat.pow 2 (-e).toNat⟩

/-- The ratio times a power of ten. -/
def Ratio.shift (r : Ratio) (e : Int) : Ratio :=
  if e ≥ 0 then ⟨r.num * Nat.pow 10 e.toNat, r.den⟩ else ⟨r.num, r.den * Nat.pow 10 (-e).toNat⟩

/-- The exponent of the leading decimal digit. Every double but zero is above `10 ^ (-400)`. -/
def Ratio.leading (r : Ratio) : Int :=
  ((Nat.toDigits 10 (r.num * Nat.pow 10 400 / r.den)).length : Int) - 401

/-- The reals that round to `mantissa · 2 ^ exponent`, in quarters of `2 ^ exponent`: the lower end,
the double itself and the upper end. Below a power of two the doubles lie twice as close. -/
def quarters (mantissa : Nat) (exponent : Int) : Nat × Nat × Nat :=
  (if mantissa = Nat.pow 2 52 ∧ exponent ≠ -1074 then 4 * mantissa - 1 else 4 * mantissa - 2,
    4 * mantissa, 4 * mantissa + 2)

/-- Whether the natural number `n` lies between two ratios, which themselves count if `closed`. -/
def between (closed : Bool) (low high : Ratio) (n : Nat) : Bool :=
  if closed then low.num ≤ n * low.den && n * high.den ≤ high.num
  else low.num < n * low.den && n * high.den < high.num

/-- The point of the grid `10 ^ grid · ℕ` nearest to the double, if one of the two points around the
double reads back as it; a tie goes to the even point. -/
def gridPoint? (mantissa : Nat) (exponent grid : Int) : Option Nat :=
  let (low, middle, high) := quarters mantissa exponent
  let onGrid (n : Nat) : Ratio := (Ratio.scaled n (exponent - 2)).shift (-grid)
  let value := onGrid middle
  let fits := between (mantissa % 2 == 0) (onGrid low) (onGrid high)
  let below := value.num / value.den
  match fits below, fits (below + 1) with
  | true, true =>
    let twice := 2 * (value.num % value.den)
    if twice < value.den || (twice == value.den && below % 2 == 0) then some below
    else some (below + 1)
  | true, false => some below
  | false, true => some (below + 1)
  | false, false => none

/-- The first hit on grids of more and more digits; with `more = 0` no grid is left. -/
def firstHit (mantissa : Nat) (exponent grid : Int) : Nat → Nat × Int
  | 0 => (0, 0)
  | more + 1 =>
    match gridPoint? mantissa exponent grid with
    | some n => (n, grid)
    | none => firstHit mantissa exponent (grid - 1) more

/-- The number without zeros at its end; at most `fuel` of them are taken off. -/
def stripZeros : Nat → Nat → Int → Nat × Int
  | 0, n, e => (n, e)
  | fuel + 1, n, e => if n % 10 = 0 then stripZeros fuel (n / 10) (e + 1) else (n, e)

/-- The shortest decimal that reads back as `mantissa · 2 ^ exponent`; seventeen digits always do.
-/
def shortest (negative : Bool) (mantissa : Nat) (exponent : Int) : Expansion :=
  if mantissa = 0 then ⟨negative, 0, 0⟩
  else
    let (n, e) := firstHit mantissa exponent (Ratio.scaled mantissa exponent).leading 17
    let (digits, e) := stripZeros 17 n e
    ⟨negative, digits, e⟩

end MotifVote.Decimal
