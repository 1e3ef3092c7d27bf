import MotifVote.Decimal.Numeral
import MotifVote.Text.Symbols
import MotifVote.Toml.Value

/-!
# TOML words

Truth values, numbers, dates and times: the values that are written as one word. Digits may be
grouped by single underscores. Integers have at most 128 bits, and a float must lie in the range of
doubles.
-/

namespace MotifVote.Toml

open Decimal (digitsValue)

/-- Digits of a class, without the underscores that group them. -/
def ungrouped? (isDigit : Char → Bool) : List Char → Option (List Char)
  | [] => none
  | [c] => if isDigit c then some [c] else none
  | c :: '_' :: rest => if isDigit c then (ungrouped? isDigit rest).map (c :: ·) else none
  | c :: rest => if isDigit c then (ungrouped? isDigit rest).map (c :: ·) else none

/-- Whether a word is negative, and the word without its sign. -/
def splitSign : List Char → Bool × List Char
  | '-' :: rest => (true, rest)
  | '+' :: rest => (false, rest)
  | chars => (false, chars)

/-- The digits of a number without a zero in front. -/
def wholeDigits? (chars : List Char) : Option (List Char) :=
  match ungrouped? Char.isDigit chars with
  | some ['0'] => some ['0']
  | some ('0' :: _) => none
  | digits => digits

/-- The number that digits write in a base. -/
def baseValue (base : Nat) (digits : List Char) : Nat :=
  digits.foldl (fun n digit => base * n + (Text.hexValue? digit).getD 0) 0

/-- Whether a character is a digit of a base. -/
def isDigitOf (base : Nat) (c : Char) : Bool := (Text.hexValue? c).any (· < base)

/-- An integer; only a decimal one has a sign. -/
def integer? (chars : List Char) : Option Int :=
  match chars with
  | '0' :: 'x' :: rest => inBase 16 rest
  | '0' :: 'o' :: rest => inBase 8 rest
  | '0' :: 'b' :: rest => inBase 2 rest
  | chars => do
    let (negative, chars) := splitSign chars
    let value := digitsValue (← wholeDigits? chars)
    return if negative then -(value : Int) else value
where
  /-- An integer in a base of its own. -/
  inBase (base : Nat) (chars : List Char) : Option Int :=
    (ungrouped? (isDigitOf base) chars).map fun digits => (baseValue base digits : Int)

/-- The exponent of a float, behind its mark. -/
def exponent? (chars : List Char) : Option Int := do
  let (negative, chars) := splitSign chars
  let value := digitsValue (← ungrouped? Char.isDigit chars)
  return if negative then -(value : Int) else value

/-- Whether a character marks an exponent. -/
def isMark (c : Char) : Bool := c == 'e' || c == 'E'

/-- A float without its sign. -/
def magnitude? (chars : List Char) : Option Float :=
  if chars = ['i', 'n', 'f'] then some (1.0 / 0.0)
  else if chars = ['n', 'a', 'n'] then some (0.0 / 0.0)
  else do
    let whole ← wholeDigits? (chars.takeWhile fun c => c != '.' && !isMark c)
    let behind := chars.dropWhile fun c => c != '.' && !isMark c
    let (fraction, rest) ←
      match behind with
      | '.' :: rest => do
        let digits ← ungrouped? Char.isDigit (rest.takeWhile fun c => !isMark c)
        pure (digits, rest.dropWhile fun c => !isMark c)
      | rest => if rest.isEmpty then none else some ([], rest)
    let exponent ←
      match rest with
      | [] => some 0
      | _ :: rest => exponent? rest
    let value := Decimal.nearest (digitsValue (whole ++ fraction)) (exponent - fraction.length)
    if value.isFinite then some value else none

/-- A float. -/
def float? (chars : List Char) : Option Float :=
  let (negative, chars) := splitSign chars
  (magnitude? chars).map fun value => if negative then -value else value

/-- The number of two digits. -/
def twoDigits? (a b : Char) : Option Nat :=
  if a.isDigit && b.isDigit then some (digitsValue [a, b]) else none

/-- The number of days of a month. -/
def daysIn (year month : Nat) : Nat :=
  if month == 2 then
    if (year % 4 == 0 && year % 100 != 0) || year % 400 == 0 then 29 else 28
  else if [4, 6, 9, 11].contains month then 30
  else 31

/-- What follows a date at the start of a word. -/
def afterDate? : List Char → Option (List Char)
  | a :: b :: c :: d :: '-' :: e :: f :: '-' :: g :: h :: rest => do
    let year := (← twoDigits? a b) * 100 + (← twoDigits? c d)
    let month ← twoDigits? e f
    let day ← twoDigits? g h
    if 1 ≤ month && month ≤ 12 && 1 ≤ day && day ≤ daysIn year month then some rest else none
  | _ => none

/-- What follows an hour and a minute in range. -/
def afterMinute? : List Char → Option (List Char)
  | a :: b :: ':' :: c :: d :: rest => do
    let hour ← twoDigits? a b
    let minute ← twoDigits? c d
    if hour < 24 && minute < 60 then some rest else none
  | _ => none

/-- What follows the time of a day at the start of a word. Seconds may be left out, and the last
minute may have one more. -/
def afterTime? (chars : List Char) : Option (List Char) := do
  match ← afterMinute? chars with
  | ':' :: a :: b :: rest =>
    let second ← twoDigits? a b
    if second > 60 then none
    else match rest with
      | '.' :: rest =>
        if rest.takeWhile Char.isDigit |>.isEmpty then none
        else some (rest.dropWhile Char.isDigit)
      | rest => some rest
  | ':' :: _ => none
  | rest => some rest

/-- Whether a word is nothing or the offset of a time. -/
def isOffset : List Char → Bool
  | [] => true
  | ['Z'] => true
  | ['z'] => true
  | '+' :: rest => afterMinute? rest == some []
  | '-' :: rest => afterMinute? rest == some []
  | _ => false

/-- Whether a word is a date, a time, or both. -/
def isMoment (chars : List Char) : Bool :=
  match afterDate? chars with
  | some [] => true
  | some (mark :: rest) =>
    (mark == 'T' || mark == 't' || mark == ' ') && (afterTime? rest).any isOffset
  | none => afterTime? chars == some []

/-- Whether 128 bits hold an integer, with or without a sign. -/
def isIntegerInRange (value : Int) : Bool :=
  -(Nat.pow 2 127 : Int) ≤ value && value < (Nat.pow 2 128 : Int)

/-- The value of a word. -/
def word? (chars : List Char) : Option Toml :=
  if chars = ['t', 'r', 'u', 'e'] then some (.bool true)
  else if chars = ['f', 'a', 'l', 's', 'e'] then some (.bool false)
  else match integer? chars with
    | some value => if isIntegerInRange value then some (.integer value) else none
    | none =>
      match float? chars with
      | some value => some (.float value)
      | none => if isMoment chars then some (.moment (String.ofList chars)) else none

end MotifVote.Toml
