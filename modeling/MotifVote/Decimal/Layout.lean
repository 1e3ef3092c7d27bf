import MotifVote.Decimal.Shortest

/-!
# Written forms of doubles

How the digits of a number are laid out: with all places before and behind the point, or with one
digit before the point and an exponent mark.
-/

namespace MotifVote.Decimal

/-- A way to write numbers. -/
structure Layout where
  /-- The exponents of the leading digit, from the first to below the second, that are written
  without an exponent mark; `none` stands for all of them. -/
  positional : Option (Int × Int)
  /-- Whether a number without an exponent mark always has a fraction. -/
  fraction : Bool
  /-- Whether an exponent that is not negative carries a sign. -/
  plus : Bool

/-- Digits with a point after the first `whole` of them, filled up with zeros on both sides. -/
def placePoint (layout : Layout) (digits : List Char) (whole : Int) : List Char :=
  let count : Int := digits.length
  if whole ≤ 0 then ['0', '.'] ++ List.replicate (-whole).toNat '0' ++ digits
  else if whole < count then digits.take whole.toNat ++ ['.'] ++ digits.drop whole.toNat
  else
    digits ++ List.replicate (whole - count).toNat '0' ++
      (if layout.fraction then ['.', '0'] else [])

/-- Digits with a point after the first of them and an exponent. -/
def placeMark (layout : Layout) (digits : List Char) (leading : Int) : List Char :=
  let sign : List Char :=
    if leading < 0 then ['-'] else if layout.plus then ['+'] else []
  digits.take 1 ++ (if digits.length > 1 then '.' :: digits.drop 1 else []) ++
    ['e'] ++ sign ++ Nat.toDigits 10 leading.natAbs

/-- A decimal in a layout. -/
def Expansion.write (layout : Layout) (d : Expansion) : String :=
  let digits := Nat.toDigits 10 d.digits
  let leading := (digits.length : Int) - 1 + d.exponent
  let positional :=
    match layout.positional with
    | none => true
    | some (least, bound) => d.digits == 0 || (least ≤ leading && leading < bound)
  let unsigned :=
    if positional then placePoint layout digits (leading + 1) else placeMark layout digits leading
  String.ofList (if d.negative then '-' :: unsigned else unsigned)

/-- A double in a layout, by its shortest digits. -/
def Layout.write (layout : Layout) (x : Float) : String :=
  match Binary.ofFloat x with
  | .nan => "NaN"
  | .infinite negative => if negative then "-inf" else "inf"
  | .finite negative mantissa exponent => (shortest negative mantissa exponent).write layout

/-- In a message a number is written out in full, and a whole number without a fraction. -/
def Layout.message : Layout := ⟨none, false, false⟩

/-- In JSON a double always has a fraction or an exponent mark, and the exponent is signed. -/
def Layout.json : Layout := ⟨some (-5, 16), true, true⟩

/-- In a table a double is written as in JSON, but for the plus sign of the exponent. -/
def Layout.csv : Layout := ⟨some (-5, 16), true, false⟩

end MotifVote.Decimal
