/-!
# Reading numerals

The double nearest to a written decimal, with ties to even.
-/

namespace MotifVote.Decimal

/-- The digits at the start of a text, and what follows them. -/
def spanDigits (chars : List Char) : List Char × List Char :=
  (chars.takeWhile Char.isDigit, chars.dropWhile Char.isDigit)

/-- The number that decimal digits write. -/
def digitsValue (digits : List Char) : Nat :=
  digits.foldl (fun n c => 10 * n + (c.toNat - '0'.toNat)) 0

/-- The double nearest to `digits · 10 ^ exponent`. Beyond the range of doubles the power of ten is
not needed to know the answer. -/
def nearest (digits : Nat) (exponent : Int) : Float :=
  let size := ((Nat.toDigits 10 digits).length : Int) + exponent
  if digits = 0 || size < -400 then 0.0
  else if size > 400 then 1.0 / 0.0
  else Float.ofScientific digits (exponent < 0) exponent.natAbs

/-- An optional exponent mark with its exponent, at the very end of a numeral. -/
def exponent? : List Char → Option Int
  | [] => some 0
  | mark :: rest =>
    if mark = 'e' || mark = 'E' then
      let (negative, digits) :=
        match rest with
        | '-' :: digits => (true, digits)
        | '+' :: digits => (false, digits)
        | digits => (false, digits)
      if digits.isEmpty || !digits.all Char.isDigit then none
      else some (if negative then -(digitsValue digits : Int) else digitsValue digits)
    else none

/-- The digits before and behind an optional point, and what follows; at least one digit is needed.
-/
def mantissa? (chars : List Char) : Option (List Char × List Char × List Char) :=
  let (whole, rest) := spanDigits chars
  let (fraction, rest) :=
    match rest with
    | '.' :: rest => spanDigits rest
    | rest => ([], rest)
  if whole.isEmpty && fraction.isEmpty then none else some (whole, fraction, rest)

/-- A number without its sign: a decimal with digits before or behind the point, `inf`, `infinity`
or `nan`. -/
def unsigned? (chars : List Char) : Option Float :=
  let word := String.ofList (chars.map Char.toLower)
  if word == "inf" || word == "infinity" then some (1.0 / 0.0)
  else if word == "nan" then some (0.0 / 0.0)
  else do
    let (whole, fraction, rest) ← mantissa? chars
    let exponent ← exponent? rest
    return nearest (digitsValue (whole ++ fraction)) (exponent - fraction.length)

/-- The double that a whole text writes, if it is a numeral. -/
def parse? : List Char → Option Float
  | '-' :: rest => (unsigned? rest).map fun x => -x
  | '+' :: rest => unsigned? rest
  | rest => unsigned? rest

end MotifVote.Decimal
